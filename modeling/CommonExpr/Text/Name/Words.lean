import CommonExpr.Text.Runs

/-! The words that are frequent in the names of characters, and their short forms. -/

namespace CommonExpr.Text.Name

/-- The first 26 words are written as one small letter, the others as two, both in
alphabetical order. -/
def frequentWords : Array String := (tableItems
  "WITH LETTER SMALL FORM CAPITAL SIGN AND ARROW RIGHT ABOVE LEFT TWO ONE BELOW FINAL DOUBLE MARK DOT THREE BLACK 
   ISOLATED WHITE FOUR HOOK STROKE SYMBOL FIVE INITIAL RIGHTWARDS HEAVY MIDDLE VERTICAL SIX EIGHT TIMES MEEM BAR 
   PLUS LEFTWARDS DOWN SEVEN HALF HUNDRED NINE BRACKET FACE SQUARE CIRCLE DOTS YEH OVER THOUSAND ALEF INDEX EQUAL 
   HORIZONTAL LIGHT VOWEL TILDE DIGIT RING DOWNWARDS LOWER TRIANGLE BARB LOW ACUTE MEDIUM UPWARDS HAH MEDIAL ZERO 
   WEST-CREE UPPER OPEN JEEM TURNED LONG TEN CIRCUMFLEX THUMB TONE DASIA HIGH PSILI REVERSED DIAERESIS LINE NGA 
   SHA SINGLE STOP TRIANGLE-HEADED ARROWHEAD LARGE GRAVE CHA MAKSURA NYA INVERTED KHA MACRON POINTING NUMBER EAST 
   ROTATED OXIA VARIA COMMA THA BLOCK LESS-THAN NOT GREATER-THAN STAR VOCALIC CENTRE BREVE HARPOON LITTLE PHA TAIL 
   CIRCLED KHAH OLD WEST ANGLE DEGREES GUNU LATIN ORNAMENT FULL SHORT ANUSVARA TTA DDA GHA DHA NORTH NUN ASTERISK 
   CROSS TRIPLE ASH CARON DIAGONAL NNA BHA OPERATOR PERISPOMENI PUNCTUATION SOUTH DASH PARENTHESIS RETROFLEX TENU 
   TOP TTHA SSA TWENTY VIRAMA DDHA DESCENDER DIAMOND ACCENT COMBINING FOR NOON DOTTED NINETY OMEGA THE WAW 
   YPOGEGRAMMENI END LAM HAMZA JHA VISARGA CLOSED EQUALS POINTED SQUARED HORN SEVENTY SHE TACK AIN ALPHA FIFTY 
   LIGATURE QUARTER BOTTOM CHESS COLON CORNER CANDRABINDU CROSSING FROM HAND HITTING IOTA REH SEPARATOR BENT DANDA 
   KAF MODIFIER QUOTATION SHIN TSA BOLD CEDILLA HEART HEH ORKHON PALATAL QUESTION YUS DIGRAPH GLOTTAL HAND-FIST 
   KNIGHT LLA PROSGEGRAMMENI UPSILON VERY YENISEI EIGHTH SEEN CURLY EPSILON EXCLAMATION MOON RAISED SIDE SIGMA 
   SUBSET COPTIC GREEK NUKTA THETA UNDERBAR EQUILATERAL FINGERS RIGHT-POINTING SCRIPT SECTION SHELL SOLIDUS 
   STRAIGHT SUPERSET ALTERNATE CONSONANT DAGESH DISH OVERLAY SANS-SERIF CURL GAMMA LEAF NEUTRAL REVERSE SHAFT 
   SLANTED SPACE THIRTY TRIANGULAR VARIANT WAVE EYES MOUTH DELTA LEFT-POINTING NOTE ARABIC ARCHAIC ARCHAION BETA 
   FRACTION HEAD INSIDE INTEGRAL SHEEN TONOS ABBREVIATION ALTERNATING ANTICLOCKWISE CONJOINED CURVE FORTY FORWARD 
   GAN2 HAND-HINGE INSULAR KAPPA KING LOOP MINUS OMICRON REST SPOKED TORTOISE ALEPH BETH BETWEEN GHAIN HAND-CIRCLE 
   HEARTS INTERSECTION SIXTY SMILING SOUND SYLLABLE UNION ALMOST ARROWS AVAGRAHA CHARACTER GIMEL GISH HINGED 
   IOTIFIED KAPH KOMI NEGATIVE PERSON QUEEN SAMEKH SHAD SLASH TAK4 C-SIMPLIFIED CANDRA EIGHTHS EIGHTY EQUIVALENT 
   HETH IDEOGRAPHIC KOET LAMEDH LENGTH OBLIQUE OGONEK QUADRANT QUARTERS SADHE SHADE TSHA WORD YODH ZAIN BULLET 
   CLUBS CYRILLIC DIALYTIKA DIAMONDS DOTLESS EARTH FILL LAMDA QUAD SPADES THROUGH TWELVE UP-POINTING ZAYIN CIRCLES 
   CLOCKWISE CROSSED DASHED ICHOS KASRA LOGICAL LOZENGE MULTIPLE MUSICAL OVERBAR POINT PRECEDES PRODUCT RISING 
   SHADOWED SPREAD SUCCEEDS SUPERSCRIPT THIRD WATER BISHOP CHECK DOWN-POINTING ELEVEN FATHA HAND-ANGLE HYPHEN 
   KASKAL KRYZHEM LAGAB MOVEMENT-FLOORPLANE MOVEMENT-WALLPLANE NOTEHEAD OCLOCK POVYSHE PRIME ROUND RTAGS SEMICOLON 
   TABULATION TEDUNG TELEPHONE WRIST Y-CREE CARRIER CLICK CURVED DOUBLE-STRUCK FIFTEEN ITALIC KATAKANA 
   MULTIPLICATION MURDA QUADRUPLE SALTIRE SIMALUNGUN TSHEG TWO-HEADED ALPAPRAANA ARABIC-INDIC BARRED BESIDE BIRGA 
   CARET DALETH DAMMA ELEMENT FLOOR HANGUL INVERSE ITERATION LEFT-STEM LUNATE MAHAAPRAANA NASKAPI NORMAL NUMERAL 
   ROUNDED SCHWA SHAR2 SIXTEEN SVARITA TWELFTHS VOICED APOSTROPHE BAMBOOS BUBBLE CEILING CHARACTERS CONTROL 
   CROSSED-TAIL CRYPTOGRAMMIC EIGHTEEN ENVELOPE FILLER LARGEST LENTICULAR NOTCHED NUBIAN PINWHEEL SAYISI SIDEWAYS 
   THIRDS ABKHASIAN AMPERSAND BACKHAND CENTRED CHIEUCH COMPRESSED CONTAINS CRESCENTS DIALECT-P DIVISION DODEKATA 
   DRAGON ELLIPSIS EXTENDED EXTENSION FINGER FOURTEEN INDEPENDENT INDICATOR KHIEUKH KIYEOK LONSUM MAHAPRANA MARKER 
   MOUNTAIN MOVEMENT NINETEEN NOTATION OPPOSING OVERLINE PAIRED PARALLEL PARTIAL PHIEUPH SECANT SEVENTEEN SHESHIG 
   STATERS SUBGROUP SUBUNIT SVETLAYA THIEUTH THIRTEEN THOUSANDS TIKEUT TURNSTILE ZAPYATAYA ZIGZAG AIRPLANE 
   BACKSLASH BALLOT CONTAINING DOLLAR FALLING FISHHOOK FOLDER JAPANESE JOINER KLYUCHEVAYA MILLIONS OUTLINED 
   PLASTICS POWERS RECTANGLE SIDDHAM SIMILAR SUBSCRIPT TALENTS TEARDROP-SPOKED VERTICALLY WRINKLED ANTIMONY 
   ATTACHED BARLINE CONTACT CORNERS CRESCENT DIFFERENTIAL DIGAMMA DIVIDER DOUBLE-LINE EQUIHOPPER EXTREMELY 
   FATHATAN HAND-CUP HIRAGANA HOLDING INFINITY INFORMATION IOTATED IZHITSA JIHVAMULIYA KHOKHLOM MATHEMATICAL 
   MEASURE MONOGRAM SCISSORS SINGLE-LINE SIXTEENTH SUBJOINED SUBSTITUTION THESPIAN UPADHMANIYA VOLAPUK ZAPYATOY 
   ANUDATTA APPROXIMATELY ARMENIAN BLACK-LETTER BUILDING CIRCULAR COMMERCIAL CURRENCY DAMMATAN FLOURISH GEMINATION 
   GEORGIAN HAND-HOOK HAND-OVAL IDEOGRAM INTERROBANG KASRATAN KATAKANA-HIRAGANA KENTIMATA KEYBOARD LEFT-TO-RIGHT 
   LOGOGRAM MEASURED NEPOSTOYANNAYA ONCOMING ORIGINAL PARAGRAPH PENTAGON ROTATION-FLOORPLANE ROTATION-WALLPLANE 
   SEMICIRCLE SEMIDIRECT SUBLIMATE U-SHAPED UMBRELLA VARIATION ACKNOWLEDGE APPROXIMATE ARROW-TAIL ARROWHEADS 
   AS-SALAAM CANCELLATION CENTRALIZATION CUATRILLO DELIMITER EGYPTOLOGICAL EKFONITIKON EXTRA-HIGH EXTRA-LOW 
   FINGER-POST FLATTENED GROMOPOVODNAYA HAND-CLAW HOURGLASS HYPHEN-MINUS IDENTICAL IDEOGRAPH ISOSCELES 
   J-SIMPLIFIED LEFT-FACING LENGTHENER LIGHTNING MIDDLE-WELSH MONOCULAR NIEUN-CIEUC NIEUN-HIEUH NIKOLSBURG 
   PARENTHESIZED PENTAGRAM PIEUP-SIOS POVODNAYA PRESENTATION RIEUL-HIEUH RIEUL-KIYEOK RIEUL-MIEUM RIEUL-PIEUP 
   RIEUL-SIOS RIGHT-FACING RIGHT-SHADOWED RIGHT-TO-LEFT SEQUENTIAL SILHOUETTE SIMPLIFIED SIXTEENTHS SSANGCIEUC 
   SSANGKIYEOK SSANGPIEUP SSANGTIKEUT TRANSMISSION TRESVETLAYA TWENTY-FIVE BALLOON-SPOKED CONSTRUCTION 
   DVOECHELNAYA EYEGAZE-WALLPLANE FRONT-TILTED HAND-CURLICUE KAPYEOUNMIEUM KAPYEOUNPHIEUPH KAPYEOUNPIEUP 
   NASALIZATION NIEUN-TIKEUT PERPENDICULAR PIEUP-SIOS-TIKEUT PIEUP-TIKEUT PRISHTHAMATRA RIEUL-PHIEUPH 
   RIEUL-THIEUTH RIEUL-TIKEUT RIGHT-SHADED SEMICIRCULAR SIXTY-FOURTH THIRTY-SECOND TRANSPOSITION 
   BYELORUSSIAN-UKRAINIAN DVOECHELNOPOVODNAYA EYEGAZE-FLOORPLANE KAPYEOUNSSANGPIEUP KLYUCHENEPOSTOYANNAYA 
   ONE-HUNDRED-AND-SIXTIETH PIEUP-SIOS-KIYEOK RIEUL-KAPYEOUNPIEUP RIEUL-KIYEOK-SIOS RIEUL-PIEUP-SIOS 
   RIEUL-SSANGKIYEOK RIEUL-YEORINHIEUH").toArray

end CommonExpr.Text.Name
