/-! Further names of characters: of the controls, of corrected mistakes, and abbreviations. -/

namespace CommonExpr.Text.Name

/-- The further names, in the notation of the tables of names. -/
def aliases : String :=
  "0NUL;@0 0NULL;0SOH;@1 0START OF HEADING;2TEXT;@2 0STX;0fs OF TEXT;@3 0ETX;0fs OF yo;@4 0EOT;0ENQ;@5 0ENQUIRY;
   0ACK;@6 0wo;0ALERT;@7 0BEL;0BACKSPACE;@8 0BS;0lg or;@9 0bd or;@9 0HT;@9 0TAB;0fs OF cj;@A 0EOL;@A 0LF;
   @A 0cj FEED;@A 0NEW cj;@A 0NL;0cj or;@B 0af or;@B 0VT;0FF;@C 0d FEED;0CARRIAGE RETURN;@D 0CR;0LOCKING-SHIFT m;
   @E 0SHIFT OUT;@E 0SO;0LOCKING-SHIFT bt;@F 0SHIFT IN;@F 0SI;0DATA LINK ESCAPE;@10 0DLE;0DC1;@11 0DEVICE qp m;
   0DC2;@12 0DEVICE qp l;0DC3;@13 0DEVICE qp s;0DC4;@14 0DEVICE qp w;0NAK;@15 0ln wo;0SYN;@16 0SYNCHRONOUS IDLE;
   0fs OF yo dg;@17 0ETB;0CAN;@18 0CANCEL;0fs OF bp;@19 0EOM;0SUB;@1A 0SUBSTITUTE;0ESC;@1B 0ESCAPE;0FILE gv;
   @1C 0FS;@1C 0un gv w;0GROUP gv;@1D 0GS;@1D 0un gv s;2l;@1E 0RECORD gv;@1E 0RS;0un gv m;@1F 0UNIT gv;@1F 0US;0SP;
   @7F 0DEL;@7F 0DELETE;0PAD;@80 0PADDING lg;0cf OCTET PRESET;@81 0HOP;0BPH;@82 0BREAK PERMITTED HERE;0NBH;
   @83 0NO BREAK HERE;0IND;@84 0bb;0NEL;@85 0NEXT cj;0fc;@86 0START OF SELECTED AREA;0fs OF SELECTED AREA;@87 0ESA;
   0lg or SET;@88 0bd or SET;@88 0HTS;0lg or a JUSTIFICATION;@89 0bd or a JUSTIFICATION;@89 0HTJ;0cj or SET;
   @8A 0af or SET;@8A 0VTS;0sj cj an;@8B 2kf;@8B 0PLD;0sj cj BACKWARD;@8C 2UP;@8C 0PLU;0jc bb;@8D 1cj FEED;@8D 0RI;
   0cm SHIFT l;@8E 0SINGLE-SHIFT-2;@8E 0SS2;0cm SHIFT s;@8F 0SINGLE-SHIFT-3;@8F 0SS3;0DCS;@90 0DEVICE qp STRING;
   0PRIVATE USE m;@91 1USE-1;@91 0PU1;0PRIVATE USE l;@92 1USE-2;@92 0PU2;0SET TRANSMIT STATE;@93 0STS;0CANCEL lg;
   @94 0CCH;0MESSAGE WAITING;@95 0MW;0SPA;@96 0START OF GUARDED AREA;@96 2PROTECTED AREA;0fs OF GUARDED AREA;
   @97 2PROTECTED AREA;@97 0EPA;0SOS;@98 0START OF STRING;0SGC;@99 0cm GRAPHIC lg INTRODUCER;0SCI;
   @9A 0cm lg INTRODUCER;0qp SEQUENCE INTRODUCER;@9B 0CSI;0ST;@9C 0STRING TERMINATOR;0OPERATING SYSTEM COMMAND;
   @9D 0OSC;0PM;@9E 0PRIVACY MESSAGE;0APC;@9F 0APPLICATION PROGRAM COMMAND;0NBSP;@AD 0SHY;@1A2 0dz e b eg;1c b eg;
   @34F 0CGJ;@61C 0ALM;@709 0SYRIAC SUBLINEAR gm SKEWED k;@CDE 0KANNADA b LLLA;@E9D 0LAO b FO FON;@E9F 3FAY;
   @EA3 2RO;@EA5 2LO;@FD0 0TIBETAN q BKA- SHOG GI MGO RGYAN;@11EC 0pu JONGSEONG YESIEUNG-KIYEOK;
   2YESIEUNG-SSANGKIYEOK;2SSANGYESIEUNG;2YESIEUNG-KHIEUKH;@180B 0FVS1;+2;0MVS;0FVS4;@200B 0ZWSP;0ZWNJ;0ZWJ;0LRM;
   0RLM;@202A 0LRE;0RLE;0PDF;0LRO;0RLO;0NNBSP;@205F 0MMSP;0WJ;@2066 0LRI;0RLI;0FSI;0PDI;
   @2118 0WEIERSTRASS ELLIPTIC FUNCTION;@2448 0MICR ON US z;1ew z;@2B7A 0am co h a p af y;@2B7C 0ac co h a p af y;
   @A015 0YI lb pw q;@AA6E 0MYANMAR b KHAMTI hp;@FE00 0VS1;+15;@FE18 0xx d fk af i v qw as;@FEFF 0BOM;
   @FEFF 0BYTE ORDER q;@FEFF 0ZWNBSP;@122D4 0CUNEIFORM f NU11 ez;3ay NU11 BUR ay BUR;@16E56 0MEDEFAIDRIN e b H;3NG;
   @16E76 1c b H;3NG;@1B001 0HENTAIGANA b E-1;@1D0C5 0BYZANTINE nm z FTHORA SKLIRON CHROMA VASIS;@E0100 0VS17;+239"

end CommonExpr.Text.Name
