/-! Names of the signs of ancient and minority scripts. -/

namespace CommonExpr.Text.Name

/-- The names from 10000 to 1CFFF, in the notation of the tables of names. -/
def ancient : String :=
  "@10000 0LINEAR B lb B008 A;3B038 E;3B028 I;3B061 O;3B010 U;3B001 DA;3B045 DE;3B007 DI;3B014 DO;3B051 DU;
   3B057 JA;3B046 JE;@1000D 3B036 JO;3B065 JU;3B077 KA;3B044 KE;3B067 KI;3B070 KO;3B081 KU;3B080 MA;3B013 ME;
   3B073 MI;3B015 MO;3B023 MU;3B006 NA;3B024 NE;3B030 NI;3B052 NO;3B055 NU;3B003 PA;3B072 PE;3B039 PI;3B011 PO;
   3B050 PU;3B016 QA;3B078 QE;3B021 QI;3B032 QO;@10028 3B060 RA;3B027 RE;3B053 RI;3B002 RO;3B026 RU;3B031 SA;
   3B009 SE;3B041 SI;3B012 SO;3B058 SU;3B059 TA;3B004 TE;3B037 TI;3B005 TO;3B069 TU;3B054 WA;3B075 WE;3B040 WI;
   3B042 WO;@1003C 3B017 ZA;3B074 ZE;@1003F 3B020 ZO;3B025 A2;3B043 A3;3B085 AU;3B071 DWE;3B090 DWO;3B048 NWA;
   3B029 PU2;3B062 PTE;3B076 RA2;3B033 RA3;3B068 RO2;3B066 TA2;3B087 TWE;3B091 l;@10050 2z B018;+1;3B022;3B034;
   3B047;3B049;3B056;3B063;+1;3B079;3B082;+1;3B086;3B089;@10080 2vs B100 MAN;3B102 WOMAN;3B104 DEER;3B105 EQUID;
   3B105F MARE;3B105M STALLION;3B106F EWE;3B106M RAM;3B107F SHE-GOAT;3B107M HE-GOAT;3B108F SOW;3B108M BOAR;
   3B109F COW;3B109M BULL;3B120 WHEAT;3B121 BARLEY;3B122 OLIVE;3B123 SPICE;3B125 CYPERUS;2uu B127 KAPO;
   3B128 KANAKO;2vs B130 OIL;3B131 WINE;3B132;2uu B133 AREPA;3B135 MERI;2vs B140 BRONZE;3B141 GOLD;3B142;
   3B145 WOOL;3B146;3B150;3B151 gb;3B152;+2;2uu B156 TURO2;2vs B157;+1;3B159 CLOTH;3B160;+1;3B162 GARMENT;
   3B163 ARMOUR;3B164;+8;3B173 MONTH;3B174;3B176 TREE;3B177;+8;3B189;+1;3B191 HELMET;3B220 FOOTSTOOL;3B225 BATHTUB;
   3B230 SPEAR;3B231 h;3B232;3B233 SWORD;3B234;3B236;3B240 WHEELED CHARIOT;3B241 CHARIOT;3B242 CHARIOT FRAME;
   3B243 WHEEL;3B245;+1;2uu B247 DIPTE;2vs B248;+1;3B251;+2;3B254 DART;3B255;+4;3VESSEL B155;4B200;+19;4B221;+1;
   4B226;+3;4B250;4B305;@10100 0AEGEAN ml gv cj;3r;1nz q;@10107 1cz m;2l;2s;2w;2aa;2ag;2ao;2ah;2ar;2ca;2fd;2jg;2ke;
   2gh;2ky;2gc;2lx;2fn;2m aq;2l aq;2s aq;2w aq;2aa aq;2ag aq;2ao aq;2ah aq;2ar aq;2m az;2l az;2s az;2w az;2aa az;
   2ag az;2ao az;2ah az;2ar az;2ca az;2fd az;2jg az;2ke az;2gh az;2ky az;2gc az;2lx az;2fn az;
   @10137 1WEIGHT BASE UNIT;2FIRST sq;2SECOND sq;2nw sq;2FOURTH sq;1DRY ut FIRST sq;1LIQUID ut FIRST sq;
   1ut SECOND sq;2nw sq;0if ACROPHONIC ATTIC m gj;4ap;4DRACHMA;3aa;3gh;3aa aq;4az;3gh az;3aa ts;3ca ts;3gh ts;
   3m aq ts;3aa aq ts;3m az ts;3aa az ts;4so;3ca so;3gh so;3m aq so;3aa aq so;3m az so;3ca az so;3gh az so;
   3ca MNAS;2HERAEUM m PLETHRON;2va m;2HERMIONIAN m;2EPIDAUREAN l;2va l;2CYRENAIC l DRACHMAS;
   2EPIDAUREAN l DRACHMAS;2TROEZENIAN aa;3ca;4is d;2HERMIONIAN ca;2MESSENIAN ca;2va ca;3jg;2TROEZENIAN gh;4is d;
   2HERMIONIAN gh;2va gh;3m aq;3s aq;2EPIDAUREAN aa aq;2TROEZENIAN aa aq;2va aa aq;2CARYSTIAN aa aq;2NAXIAN aa aq;
   2va m az;3aa az;2DELPHIC aa MNAS;2STRATIAN gh MNAS;1m ap f;4is d;1l rc f;1s mh f;1YEAR f;1TALENT f;1DRACHMA f;
   1OBOL f;1l OBOLS f;1s OBOLS f;1w OBOLS f;1aa OBOLS f;1METRETES f;1KYATHOS BASE f;1LITRA f;1OUNKIA f;1XESTES f;
   1ARTABE f;1AROURA f;1GRAMMA f;1TRYBLION BASE f;1bt f;1m gj f;1SINUSOID f;1INDICTION f;0NOMISMA f;
   @10190 0ROMAN SEXTANS f;1UNCIA f;1SEMUNCIA f;1SEXTULA f;1DIMIDIA SEXTULA f;1SILIQUA f;1DENARIUS f;1QUINARIUS f;
   1SESTERTIUS f;1DUPONDIUS f;1AS f;1CENTURIAL f;0ASCIA z;@101A0 0if z TAU RHO;@101D0 0PHAISTOS DISC f PEDESTRIAN;
   3PLUMED ju;3TATTOOED ju;3CAPTIVE;3CHILD;3WOMAN;3HELMET;3GAUNTLET;3TIARA;3h;3BOW;3SHIELD;3CLUB;3MANACLES;
   3MATTOCK;3SAW;3LID;3BOOMERANG;3CARPENTRY PLANE;3DOLIUM;3COMB;3SLING;3COLUMN;3BEEHIVE;3SHIP;3gb;3HIDE;3BULLS LEG;
   3CAT;3RAM;3EAGLE;3DOVE;3TUNNY;3BEE;3PLANE TREE;3VINE;3PAPYRUS;3ROSETTE;3LILY;3OX BACK;3FLUTE;3GRATER;3STRAINER;
   3c AXE;3WAVY BAND;3fj me y;@10280 0LYCIAN b A;2E;2B;2BH;2G;2D;2I;2W;2Z;2TH;2J;2K;2Q;2L;2M;2N;2MM;2NN;2U;2P;2KK;
   2R;2S;2T;2TT;2AN;2EN;2H;2X;@102A0 0CARIAN b A;2P2;2D;2L;2UUU;2R;2LD;2A2;2Q;2B;2M;2O;2D2;2T;2SH;2SH2;2S;2C-18;2U;
   2NN;2X;2N;2TT2;2P;2SS;2I;2E;2UUUU;2K;2K2;2ND;2UU;2G;2G2;2ST;2ST2;2NG;2II;2C-39;2TT;2UUU2;2RR;2MB;2MB2;+2;2LD2;
   2E2;2UUU3;@102E0 0ie EPACT su q;2bh m;3l;3s;3w;3aa;3ag;3ao;3ah;3ar;2cz ca;3fd;3jg;3ke;3gh;3ky;3gc;3lx;3fn;3m aq;
   3l aq;3s aq;3w aq;3aa aq;3ag aq;3ao aq;3ah aq;3ar aq;@10300 0du pb b A;3BE;3KE;3DE;3E;3VE;3ZE;3HE;3fp;3I;3KA;
   3EL;3EM;3EN;3ESH;3O;3PE;3gd;3KU;3ER;3ES;3TE;3U;3EKS;3PHE;3KHE;3EF;3ERS;3CHE;3II;3UU;3ESS;2qc m;3aa;3ca;3gh;
   @1032D 2b YE;3NORTHERN TSE;3SOUTHERN TSE;0GOTHIC b AHSA;2BAIRKAN;2GIBA;2DAGS;2AIHVUS;2QAIRTHRA;2IUJA;2HAGL;
   2THIUTH;2EIS;2KUSMA;2LAGUS;2MANNA;2NAUTHS;2JER;2URUS;2PAIRTHRA;2fn;2RAIDA;2SAUIL;2TEIWS;2WINJA;2FAIHU;2IGGWS;
   2HWAIR;2OTHAL;2ar aq;@10350 0du PERMIC b AN;3BUR;3GAI;3DOI;3E;3ZHOI;3DZHOI;3ZATA;3DZITA;3I;3KOKE;3LEI;3MENOE;
   3NENOE;3VOOI;3PEEI;3REI;3SII;3TAI;3U;3CHERY;3SHOOI;3SHCHOOI;3YRY;3YERU;3O;3OO;3EF;3HA;3TSIU;3VER;3YER;3YERI;
   3YAT;3IE;3YU;3YA;3IA;0fj du PERMIC b AN;4DOI;4ZATA;4NENOE;4SII;@10380 0UGARITIC b ALPA;2js;2GAMLA;2cw;2jm;2HO;
   2WO;2ZETA;2HOTA;2TET;2YOD;2gy;2hb;2mw;2MEM;2DHAL;2ej;2ZU;2SAMKA;2gf;2PU;2SADE;2QOPA;2RASHA;2THANNA;2ku;2TO;2I;
   2U;2SSU;@1039F 1ml ue;0du PERSIAN f A;3I;3U;3KA;3KU;3GA;3GU;3XA;3CA;3JA;3JI;3TA;3TU;3DA;3DI;3DU;3df;3PA;3BA;3FA;
   3NA;3NU;3MA;3MI;3MU;3YA;3VA;3VI;3RA;3RU;3LA;3SA;3ZA;3cl;3fc;3HA;@103C8 3AURAMAZDAA;3AURAMAZDAA-2;3AURAMAZDAAHA;
   3XSHAAYATHIYA;3DAHYAAUSH;3DAHYAAUSH-2;3BAGA;3BUUMISH;2ml ue;2cz m;3l;3ca;3fd;3aq;@10400 0DESERET e b bz I;4E;4A;
   4AH;4O;4OO;3ec I;4E;4A;4AH;4O;4OO;3AY;3OW;3WU;3YEE;3H;3PEE;3BEE;3TEE;3DEE;3CHEE;3JEE;3KAY;3GAY;3EF;3VEE;3ETH;
   3THEE;3ES;3ZEE;3ESH;3ZHEE;3ER;3EL;3EM;3EN;3ENG;3OI;3EW;1c b bz I;4E;4A;4AH;4O;4OO;3ec I;4E;4A;4AH;4O;4OO;3AY;
   3OW;3WU;3YEE;3H;3PEE;3BEE;3TEE;3DEE;3CHEE;3JEE;3KAY;3GAY;3EF;3VEE;3ETH;3THEE;3ES;3ZEE;3ESH;3ZHEE;3ER;3EL;3EM;
   3EN;3ENG;3OI;3EW;0SHAVIAN b PEEP;2TOT;2KICK;2FEE;2THIGH;2SO;2SURE;2CHURCH;2YEA;2HUNG;2BIB;2DEAD;2GAG;2VOW;2THEY;
   2ZOO;2ut;2JUDGE;2WOE;2HA-HA;2LOLL;2MIME;2IF;2EGG;2en;2ADO;2ON;2WOOL;2OUT;2AH;2ROAR;2ej;2EAT;2AGE;2ICE;2UP;2OAK;
   2OOZE;2OIL;2AWE;2ARE;2OR;2AIR;2ERR;2ARRAY;2EAR;2IAN;2YEW;0OSMANYA b ba;2BA;2TA;2JA;2XA;2cw;2DEEL;2RA;2SA;2SHIIN;
   2eh;2CAYN;2GA;2FA;2QAAF;2KAAF;2LAAN;2MIIN;2NUUN;2fq;2HA;2YA;2A;2E;2I;2O;2U;2AA;2EE;2OO;@104A0 1bh bt;2m;2l;2s;
   2w;2aa;2ag;2ao;2ah;2ar;@104B0 0OSAGE e b A;3AI;3gf;3AH;3BRA;3cs;3EHCHA;3E;3EIN;3HA;3HYA;3I;3KA;3EHKA;3KYA;3LA;
   3MA;3NA;3O;3OIN;3PA;3EHPA;3SA;3cl;3TA;3EHTA;3hc;3EHTSA;3mk;3eh;3U;3WA;3cw;3eg;3ZA;3ZHA;@104D8 1c b A;3AI;3gf;
   3AH;3BRA;3cs;3EHCHA;3E;3EIN;3HA;3HYA;3I;3KA;3EHKA;3KYA;3LA;3MA;3NA;3O;3OIN;3PA;3EHPA;3SA;3cl;3TA;3EHTA;3hc;
   3EHTSA;3mk;3eh;3U;3WA;3cw;3eg;3ZA;3ZHA;@10500 0ELBASAN b A;2BE;2CE;2CHE;2DE;2NDE;2DHE;2EI;2E;2FE;2GE;2GJE;2HE;
   2I;2JE;2KE;2LE;2LLE;2ME;2NE;2NA;2NJE;2O;2PE;2QE;2RE;2RRE;2SE;2gd;2TE;2fp;2U;2VE;2XE;2Y;2ZE;2ZHE;2GHE;2GHAMMA;
   2KHE;@10530 0CAUCASIAN ALBANIAN b ALT;3BET;3GIM;3DAT;3EB;3ZARL;3EYN;3ZHIL;3TAS;3cs;3YOWD;3ZHA;3IRB;3cl;3LAN;
   3INYA;3XEYN;3DYAN;3CAR;3JHOX;3KAR;3LYIT;3HEYT;3QAY;3AOR;3CHOY;3CHI;3CYAY;3MAQ;3QAR;3NOWC;3DZYAY;3SHAK;3JAYN;3ON;
   3TYAY;3FAM;3DZAY;3CHAT;3PEN;3GHEYS;3RAT;3SEYK;3VEYZ;3TIWR;3SHOY;3IWN;3CYAW;3CAYN;3YAYD;3PIWR;3KIW;
   @1056F 2CITATION q;0VITHKUQI e b A;3BBE;3BE;3CE;3CHE;3DE;3DHE;3EI;3E;3FE;3GA;@1057C 3HA;3HHA;3I;3IJE;3JE;3KA;
   3LA;3hp;3ME;3NE;3NJE;3O;3PE;3QA;3RE;@1058C 3SE;3gd;3TE;3fp;3U;3VE;3XE;@10594 3Y;3ZE;@10597 1c b A;3BBE;3BE;3CE;
   3CHE;3DE;3DHE;3EI;3E;3FE;3GA;@105A3 3HA;3HHA;3I;3IJE;3JE;3KA;3LA;3hp;3ME;3NE;3NJE;3O;3PE;3QA;3RE;@105B3 3SE;3gd;
   3TE;3fp;3U;3VE;3XE;@105BB 3Y;3ZE;@10600 0LINEAR A f AB001;+10;3AB013;3AB016;+1;3AB020;+1;3AB021F;3AB021M;3AB022;
   3AB022F;3AB022M;3AB023;3AB023M;3AB024;3AB026;+2;3A028B;3AB029;+2;3AB034;3AB037;+4;3AB044;+7;3AB053;+8;3AB065;+2;
   3AB069;+1;3AB073;+1;3AB076;+6;3AB085;+2;3A100-102;3AB118;3AB120;3A120B;3AB122;+1;3AB131A;3AB131B;3A131C;3AB164;
   3AB171;3AB180;3AB188;3AB191;3A301;+7;3A309A;3A309B;3A309C;3A310;+2;3A313A;3A313B;3A313C;3A314;+57;3A400-VAS;
   3A401-VAS;3A402-VAS;3A403-VAS;3A404-VAS;3A405-VAS;3A406-VAS;3A407-VAS;3A408-VAS;3A409-VAS;3A410-VAS;3A411-VAS;
   3A412-VAS;3A413-VAS;3A414-VAS;3A415-VAS;3A416-VAS;3A417-VAS;3A418-VAS;3A501;+5;3A508;+5;3A515;+1;3A520;+1;3A523;
   +9;3A534;+8;3A545;3A547;+10;3A559;3A563;+3;3A568;+21;3A591;+1;3A594;+2;3A598;3A600;+4;3A606;3A608;+16;3A626;+3;
   3A634;3A637;+1;3A640;3A642;+4;3A648;+1;3A651;+13;@10740 3A701 A;3A702 B;3A703 D;3A704 E;3A705 F;3A706 H;3A707 J;
   3A708 K;3A709 L;3A709-2 L2;3A709-3 L3;3A709-4 L4;3A709-6 L6;3A710 W;3A711 X;3A712 Y;3A713 fo;3A714 ABB;3A715 BB;
   3A717 DD;3A726 EYYY;3A732 JE;@10760 3A800;+7;@10780 0gz b c e AA;2nv jh gm;3ap jh gm;2c AE;3e B;3B a x;
   @10787 3DZ hl;5a ey x;6iy;3DEZH hl;3D a dr;5x;6g dr;3ch E;3fx ch bw E;3FENG hl;3RAMS gb;3e G;3G a x;3e G a x;
   3H a y;3e H;3HENG a x;3mt J a y g x;3LS hl;3LZ hl;3L a BELT;3e L a BELT;3L a ey x g BELT;3LEZH;4a ey x;3by Y;
   5a BELT;3O a y;3e OE;3fx fo;3Q;3by R a bz LEG;8g ey x;3R a dr;5tf;3e R;3TC hl a iy;3TS hl;5a ey x;3TESH hl;
   3T a ey x;3V a i x;@107B2 3e Y;2hm cn a y;2ch hm cn a y;2BILABIAL ox;2DENTAL ox;2LATERAL ox;2ALVEOLAR ox;
   2ey ox a ey x;2c S a iy;@10800 0CYPRIOT lb A;2E;2I;2O;2U;2JA;@10808 2JO;@1080A 2KA;2KE;2KI;2KO;2KU;2LA;2LE;2LI;
   2LO;2LU;2MA;2ME;2MI;2MO;2MU;2NA;2NE;2NI;2NO;2NU;2PA;2PE;2PI;2PO;2PU;2RA;2RE;2RI;2RO;2RU;2SA;2SE;2SI;2SO;2SU;2TA;
   2TE;2TI;2TO;2TU;2WA;2WE;2WI;2WO;@10837 2XA;2XE;@1083C 2ZA;@1083F 2ZO;0IMPERIAL ARAMAIC b kr;3ks;3lh;3pq;3HE;3fq;
   3nc;3lz;3TETH;3mm;3ll;3mc;3MEM;3ej;3lq;3AYIN;3PE;3mi;3QOPH;3RESH;3hb;3TAW;@10857 2in f;2cz m;3l;3s;3ca;3fd;
   3m aq;4az;3ca az;0PALMYRENE b kr;2ks;2lh;2pq;2HE;2fq;2nc;2lz;2TETH;2mm;2ll;2mc;2MEM;2o ej;2ej;2lq;2AYIN;2PE;2mi;
   2QOPH;2RESH;2hb;2TAW;1jn FLEURON;1il FLEURON;1cz m;2l;2s;2w;2aa;2ca;2fd;0NABATAEAN b o kr;2kr;2o ks;2ks;2lh;2pq;
   2o HE;2HE;2fq;2nc;2lz;2TETH;2o mm;2mm;2o ll;2ll;2o mc;2mc;2o MEM;2MEM;2o ej;2ej;2lq;2AYIN;2PE;2mi;2QOPH;2RESH;
   2o hb;2hb;2TAW;@108A7 1cz m;2l;2s;2w;1CRUCIFORM cz w;1cz aa;2ca;2fd;2m aq;@108E0 0HATRAN b kr;2ks;2lh;
   2DALETH-RESH;2HE;2fq;2ZAYN;2lz;2TETH;2mm;2ll;2mc;2MEM;2ej;2lq;2AYN;2PE;2mi;2QOPH;@108F4 2hb;2TAW;@108FB 1cz m;
   2aa;2ca;2fd;2m aq;0PHOENICIAN b ALF;2BET;2GAML;2DELT;2HE;2WAU;2ZAI;2HET;2TET;2YOD;2gy;2LAMD;2MEM;2ej;2SEMK;2gf;
   2PE;2SADE;2QOF;2ROSH;2hb;2TAU;1cz m;2ca;2fd;2m aq;2l;2s;@1091F 1ml gv;0LYDIAN b A;2B;2G;2D;2E;2V;2I;2Y;2K;2L;2M;
   2N;2O;2R;2SS;2T;2U;2F;2Q;2S;2TT;2AN;2EN;2LY;2NN;2C;@1093F 1jh q;@10980 0MEROITIC HIEROGLYPHIC b A;3E;3I;3O;3YA;
   3WA;3BA;3BA-2;3PA;3MA;3NA;3NA-2;3NE;3NE-2;3RA;3RA-2;3LA;3cw;3HHA;3SA;3SA-2;3SE;3KA;3QA;3TA;3TA-2;3TE;3TE-2;3TO;
   3DA;2z VIDJ;3VIDJ-2;1CURSIVE b A;3E;3I;3O;3YA;3WA;3BA;3PA;3MA;3NA;3NE;3RA;3LA;3cw;3HHA;3SA;3jq SA;3SE;3KA;3QA;
   3TA;3TE;3TO;3DA;@109BC 2jt ob qi;3m ap;2vz RMT;3IMN;2cz m;3l;3s;3w;3aa;3ag;3ao;3ah;3ar;3ca;3fd;3jg;3ke;3gh;3ky;
   3gc;@109D2 3m aq;3l aq;3s aq;3w aq;3aa aq;3ag aq;3ao aq;3ah aq;3ar aq;3m az;3l az;3s az;3w az;3aa az;3ag az;
   3ao az;3ah az;3ar az;3ca az;3fd az;3jg az;3ke az;3gh az;3ky az;3gc az;3lx az;3fn az;3m aq az;3l aq az;3s aq az;
   3w aq az;3aa aq az;3ag aq az;3ao aq az;3ah aq az;3ar aq az;2jt m TWELFTH;3l qi;3s qi;3w qi;3aa qi;3ag qi;3ao qi;
   3ah qi;3ar qi;3ca qi;0KHAROSHTHI b A;1bf f I;3U;3dl R;@10A05 3E;3O;@10A0C 2md q;1f p bi n;2ed;2fw;1b KA;2cw;2GA;
   2eg;@10A15 2CA;2cs;2JA;@10A19 2cu;2ee;2fb;2ef;2ff;2eq;2TA;2df;2DA;2eh;2NA;2PA;2dq;2BA;2er;2MA;2YA;2RA;2LA;2VA;
   2cl;2fc;2SA;2ZA;2HA;2KKA;2TTTHA;2TTTA;2VHA;@10A38 1f ak j;2CAUDA;2r n;@10A3F 1fe;1bh m;2l;2s;2w;1cz ca;2fd;
   2m aq;3az;1jt m ap;@10A50 1eu r;2c av;2av;2ub ak;2MANGALAM;2LOTUS;2gx;2p gx;2LINES;@10A60 0du ev ARABIAN b HE;
   4mc;4lz;4MEM;4QOPH;4fq;4hb;4RESH;4ks;4TAW;4SAT;4ll;4ej;4KHETH;4mi;4lq;4FE;4ba;4AYN;4DHADHE;4lh;4pq;4GHAYN;4TETH;
   4ZAYN;4DHALETH;4mm;4THAW;4THETH;3cz m;4gh;3NUMERIC rv;1ei ARABIAN b hg;4ft;4br;4aj;4QAF;4fq;4ES-2;4gu;4BEH;4TEH;
   4ES-1;4gy;4fl;4dt;4SAD;4ES-3;4FEH;4ba;4gf;4DAD;4GEEM;4DAL;4ku;4TAH;4mn;4THAL;4ax;4THEH;4ZAH;3cz m;4ca;4fd;
   @10AC0 0MANICHAEAN b kr;2ks;2BHETH;2lh;2GHIMEL;2pq;2HE;2fq;1f UD;1b nc;2ZHAYIN;2JAYIN;2JHAYIN;2lz;2TETH;2mm;2ll;
   2XAPH;2KHAPH;2mc;2DHAMEDH;2THAMEDH;2MEM;2ej;2lq;2AYIN;2AAYIN;2PE;2FE;2mi;2QOPH;2XOPH;2QHOPH;2RESH;2hb;2SSHIN;
   2TAW;1jz q j;3n;@10AEB 1cz m;2aa;2ca;2fd;2m aq;1eu dk;2FLEURON;2p r WITHIN r;2r WITHIN r;3;2l aw;2cj qu;
   @10B00 0AVESTAN b A;2AA;2AO;2AAO;2AN;2AAN;2AE;2AEE;2E;2EE;2O;2OO;2I;2II;2U;2UU;2KE;2XE;2XYE;2XVE;2GE;2GGE;2GHE;
   2CE;2JE;2TE;2fp;2DE;2DHE;2TTE;2PE;2FE;2BE;2BHE;2NGE;2NGYE;2NGVE;2NE;2NYE;2NNE;2ME;2HME;2YYE;2YE;2VE;2RE;2LE;2SE;
   2ZE;2gd;2ZHE;2SHYE;2SSHE;2HE;@10B39 1jz q;0TINY l aw ay m r eu;0c l aw ay m r eu;0cq l aw ay m r eu;
   1m r ay l aw eu;1l RINGS ay m bi eu;1m bi ay l RINGS eu;0INSCRIPTIONAL PARTHIAN b kr;3ks;3lh;3pq;3HE;3fq;3nc;
   3lz;3TETH;3mm;3ll;3mc;3MEM;3ej;3lq;3AYIN;3PE;3mi;3QOPH;3RESH;3hb;3TAW;@10B58 2cz m;3l;3s;3w;3ca;3fd;3m aq;4az;
   1PAHLAVI b kr;3ks;3lh;3pq;3HE;3WAW-AYIN-RESH;3nc;3lz;3TETH;3mm;3ll;3mc;3MEM-QOPH;3ej;3lq;3PE;3mi;3hb;3TAW;
   @10B78 2cz m;3l;3s;3w;3ca;3fd;3m aq;4az;0PSALTER PAHLAVI b kr;3ks;3lh;3pq;3HE;3WAW-AYIN-RESH;3nc;3lz;3mm;3ll;
   3mc;3MEM-QOPH;3ej;3lq;3PE;3mi;3hb;3TAW;@10B99 2in q;2by in q;2w aw a el;5r;@10BA9 2cz m;3l;3s;3w;3ca;3fd;3m aq;
   @10C00 0du TURKIC b hh A;3ht A;4AE;3hh I;3ht I;4E;3hh O;4OE;3ht OE;3hh AB;3ht AB;3hh AEB;3ht AEB;3hh AG;3ht AG;
   3hh AEG;3ht AEG;3hh AD;3ht AD;3hh AED;4EZ;3ht EZ;3hh AY;3ht AY;3hh AEY;3ht AEY;3hh AEK;3ht AEK;3hh OEK;3ht OEK;
   3hh AL;3ht AL;3hh AEL;4ELT;4EM;4AN;4AEN;3ht AEN;3hh ENT;3ht ENT;3hh ENC;3ht ENC;3hh ENY;3ht ENY;4ANG;3hh ENG;
   3ht AENG;3hh EP;4OP;4IC;4EC;3ht EC;3hh AQ;3ht AQ;3hh IQ;3ht IQ;3hh OQ;3ht OQ;3hh AR;3ht AR;3hh AER;4AS;4AES;4en;
   3ht en;3hh ESH;3ht ESH;3hh AT;3ht AT;3hh AET;3ht AET;3hh OT;4BASH;@10C80 1HUNGARIAN e b A;4AA;4EB;4AMB;4EC;4ENC;
   4ECS;4ED;4g;4E;4CLOSE E;4EE;4EF;4EG;4EGY;4EH;4I;4II;4EJ;4EK;4AK;4UNK;4EL;4ELY;4EM;4EN;4ENY;4O;4OO;4xs OE;
   4RUDIMENTA OE;4OEE;4EP;4EMP;4ER;4ec ER;4ES;4ESZ;4ET;4ENT;4ETY;4ECH;4U;4UU;4xs UE;4RUDIMENTA UE;4EV;4EZ;4EZS;
   4ENT-SHAPED f;4US;@10CC0 2c b A;4AA;4EB;4AMB;4EC;4ENC;4ECS;4ED;4g;4E;4CLOSE E;4EE;4EF;4EG;4EGY;4EH;4I;4II;4EJ;
   4EK;4AK;4UNK;4EL;4ELY;4EM;4EN;4ENY;4O;4OO;4xs OE;4RUDIMENTA OE;4OEE;4EP;4EMP;4ER;4ec ER;4ES;4ESZ;4ET;4ENT;4ETY;
   4ECH;4U;4UU;4xs UE;4RUDIMENTA UE;4EV;4EZ;4EZS;4ENT-SHAPED f;4US;@10CFA 2cz m;3aa;3ca;3gh;3m aq;4az;
   0HANIFI ROHINGYA b A;3BA;3PA;3TA;3ee;3JA;3CA;3HA;3cw;3FA;3DA;3ef;3RA;3RRA;3ZA;3SA;3cl;3KA;3GA;3LA;3MA;3NA;3WA;
   3KINNA WA;3YA;3KINNA YA;3ck;3cu;3VA;2bf A;3I;3U;3E;3O;2q SAKIN;3NA KHONNA;2f HARBAHAY;3TAHALA;3TANA;3TASSI;
   @10D30 2bh bt;3m;3l;3s;3w;3aa;3ag;3ao;3ah;3ar;@10E60 0RUMI bh m;2l;2s;2w;2aa;2ag;2ao;2ah;2ar;1cz ca;2fd;2jg;2ke;
   2gh;2ky;2gc;2lx;2fn;2m aq;2l aq;2s aq;2w aq;2aa aq;2ag aq;2ao aq;2ah aq;2ar aq;1jt m ap;3gj;3nw;2l rc;
   @10E80 0YEZIDI b ELIF;2BE;2PE;2PHE;2fp;2SE;2CIM;2CHIM;2CHHIM;2HHA;2XA;2DAL;2ZAL;2RA;2RHA;2ZA;2JA;2SIN;2hb;2SAD;
   2DAD;2TA;2ZE;2EYN;2XHEYN;2FA;2VA;3is d;2QAF;2gy;2KHAF;2GAF;2ft;2MIM;2ej;2UM;2fq;2OW;2EW;2HAY;2YOT;2ET;
   @10EAB 1fj fu q;2MADDA q;1HYPHENATION q;@10EB0 1b ft a r j;2YOT a cb j;@10F00 0du SOGDIAN b kr;3o kr;3ks;3o ks;
   3lh;3HE;3o HE;3fq;3nc;3lz;3mm;3ll;3mc;3MEM;3ej;3o ej;5a af dr;3lq;3AYIN;3is AYIN;3PE;3mi;3o mi;5a af dr;
   3RESH-AYIN-DALETH;3hb;3TAW;3o TAW;5a af dr;2cz m;3l;3s;3w;3aa;3ca;3fd;3jg;3m aq;2jt m ap;2gi AYIN-DALETH;
   @10F30 0SOGDIAN b kr;2ks;2lh;2HE;2fq;2nc;2lz;2mm;2ll;2mc;2MEM;2ej;2lq;2AYIN;2PE;2mi;2RESH-AYIN;2hb;2TAW;2FETH;
   2LESH;1ru hb;1fj r n;2l aw n;2r j;2l aw j;2kd j;3n;2x j;3n;2bz x n;2RESH n;2y n;1cz m;2ca;2fd;2m aq;
   1eu l af BARS;5a aw;2av a r;2l nd a aw;2ap av a r;@10F70 0du UYGHUR b kr;3ks;3GIMEL-HETH;3fq;3nc;3o lz;3mm;3ll;
   3mc;3MEM;3ej;3lq;3PE;3mi;3RESH;3hb;3TAW;3LESH;2fj r j;4n;3l aw j;5n;2eu ak;3l BARS;4aw;3w aw;
   @10FB0 0CHORASMIAN b kr;2c kr;2ks;2lh;2pq;2HE;2fq;2CURLED fq;2nc;2lz;2mm;2ll;2mc;2MEM;2ej;2lq;2AYIN;2PE;2RESH;
   2hb;2TAW;1cz m;2l;2s;2w;2ca;2fd;2m aq;@10FE0 0ELYMAIC b kr;2ks;2lh;2pq;2HE;2fq;2nc;2lz;2TETH;2mm;2ll;2mc;2MEM;
   2ej;2lq;2AYIN;2PE;2mi;2QOPH;2RESH;2hb;2TAW;1gi ZAYIN-YODH;@11000 0BRAHMI f go;2ed;2fw;2uq;2vb;1b A;2AA;2I;2II;
   2U;2UU;2dl R;3RR;3L;3LL;2E;2AI;2O;2AU;2KA;2cw;2GA;2eg;2ck;2CA;2cs;2JA;2fv;2cu;2ee;2fb;2ef;2ff;2eq;2TA;2df;2DA;
   2eh;2NA;2PA;2dq;2BA;2er;2MA;2YA;2RA;2LA;2VA;2cl;2fc;2SA;2HA;2hp;2du TAMIL LLLA;4RRA;4NNNA;1bf f AA;
   3BHATTIPROLU AA;3I;3II;3U;3UU;3dl R;4RR;4L;4LL;3E;3AI;3O;3AU;1fe;1gx;1p gx;1eu r;2p r;2cj;2ub ak;2LOTUS;
   @11052 1cz m;2l;2s;2w;2aa;2ag;2ao;2ah;2ar;2ca;2fd;2jg;2ke;2gh;2ky;2gc;2lx;2fn;2m aq;3az;1bh bt;2m;2l;2s;2w;2aa;
   2ag;2ao;2ah;2ar;1f du TAMIL fe;1b du TAMIL ec E;5O;1bf f du TAMIL ec E;6O;1b du TAMIL hp;@1107F 1cz ti;
   0KAITHI f go;2ed;2fw;1b A;2AA;2I;2II;2U;2UU;2E;2AI;2O;2AU;2KA;2cw;2GA;2eg;2ck;2CA;2cs;2JA;2fv;2cu;2ee;2fb;2ef;
   2DDDHA;2ff;2RHA;2eq;2TA;2df;2DA;2eh;2NA;2PA;2dq;2BA;2er;2MA;2YA;2RA;2LA;2VA;2cl;2fc;2SA;2HA;1bf f AA;3I;3II;3U;
   3UU;3E;3AI;3O;3AU;1f fe;2ig;1jz f;1ENUMERATION f;1cz f;1in q;1p in q;1gx;1p gx;1bf f dl R;@110CD 1cz f j;
   @110D0 0SORA SOMPENG b SAH;3TAH;3BAH;3CAH;3DAH;3GAH;3MAH;3NGAH;3LAH;3NAH;3VAH;3PAH;3YAH;3RAH;3br;3KAH;3JAH;
   3NYAH;3AH;3EEH;3IH;3UH;3OH;3EH;3MAE;@110F0 2bh bt;3m;3l;3s;3w;3aa;3ag;3ao;3ah;3ar;@11100 0CHAKMA f go;2ed;2fw;
   1b AA;2I;2U;2E;2KAA;2KHAA;2GAA;2GHAA;2NGAA;2CAA;2CHAA;2JAA;2JHAA;2NYAA;2TTAA;2TTHAA;2DDAA;2DDHAA;2NNAA;2TAA;
   2THAA;2DAA;2DHAA;2NAA;2PAA;2PHAA;2BAA;2BHAA;2MAA;2YYAA;2YAA;2RAA;2LAA;2WAA;2SAA;2HAA;1bf f A;3I;3II;3U;3UU;3E;
   3AI;3O;3AU;3OI;1O q;1AU q;1fe;1MAAYYAA;@11136 1bh bt;2m;2l;2s;2w;2aa;2ag;2ao;2ah;2ar;1in q;1gx;1p gx;1hj q;
   1b LHAA;1bf f AA;3EI;1b VAA;@11150 0MAHAJANI b A;2I;2U;2E;2O;2KA;2cw;2GA;2eg;2CA;2cs;2JA;2fv;2cu;2ee;2fb;2ef;
   2ff;2eq;2TA;2df;2DA;2eh;2NA;2PA;2dq;2BA;2er;2MA;2RA;2LA;2VA;2SA;2HA;2RRA;1f ig;1jz f;1in q;1gi SHRI;
   @11180 0SHARADA f go;2ed;2fw;1b A;2AA;2I;2II;2U;2UU;2dl R;3RR;3L;3LL;2E;2AI;2O;2AU;2KA;2cw;2GA;2eg;2ck;2CA;2cs;
   2JA;2fv;2cu;2ee;2fb;2ef;2ff;2eq;2TA;2df;2DA;2eh;2NA;2PA;2dq;2BA;2er;2MA;2YA;2RA;2LA;2hp;2VA;2cl;2fc;2SA;2HA;
   1bf f AA;3I;3II;3U;3UU;3dl R;4RR;4L;4LL;3E;3AI;3O;3AU;1f fe;2lf;2uq;2vb;1OM;1gx;1p gx;1jz f;1gv;1SANDHI q;1f ig;
   1bf gz q;1EXTRA ec bf q;1SUTRA q;1bf f zf E;1f cv go;1bh bt;2m;2l;2s;2w;2aa;2ag;2ao;2ah;2ar;1EKAM;1f tp;
   1HEADSTROKE;1CONTINUATION f;1in MARK-1;+1;@111E1 0SINHALA jq bh m;3l;3s;3w;3aa;3ag;3ao;3ah;3ar;2cz ca;3fd;3jg;
   3ke;3gh;3ky;3gc;3lx;3fn;3m aq;4az;@11200 0KHOJKI b A;2AA;2I;2U;2E;2AI;2O;2AU;2KA;2cw;2GA;2GGA;2eg;2ck;2CA;2cs;
   2JA;2JJA;@11213 2cu;2ee;2fb;2ef;2ff;2eq;2TA;2df;2DA;2DDDA;2eh;2NA;2PA;2dq;2BA;2BBA;2er;2MA;2YA;2RA;2LA;2VA;2SA;
   2HA;2hp;1bf f AA;3I;3II;3U;3E;3AI;3O;3AU;1f ed;2fe;2ig;2SHADDA;1gx;1p gx;1ml gv;1in q;1p in q;1jz f;1f SUKUN;
   @11280 0MULTANI b A;2I;2U;2E;2KA;2cw;2GA;@11288 2eg;@1128A 2CA;2cs;2JA;2JJA;@1128F 2cu;2ee;2fb;2ef;2DDDA;2ff;
   2eq;2TA;2df;2DA;2eh;2NA;2PA;2dq;2BA;@1129F 2er;2MA;2YA;2RA;2LA;2VA;2SA;2HA;2RRA;2RHA;1in q;
   @112B0 0KHUDAWADI b A;2AA;2I;2II;2U;2UU;2E;2AI;2O;2AU;2KA;2cw;2GA;2GGA;2eg;2ck;2CA;2cs;2JA;2JJA;2fv;2cu;2ee;2fb;
   2ef;2DDDA;2RRA;2ff;2eq;2TA;2df;2DA;2eh;2NA;2PA;2dq;2BA;2BBA;2er;2MA;2YA;2RA;2LA;2VA;2cl;2SA;2HA;1f ed;1bf f AA;
   3I;3II;3U;3UU;3E;3AI;3O;3AU;1f ig;2fe;@112F0 1bh bt;2m;2l;2s;2w;2aa;2ag;2ao;2ah;2ar;@11300 0GRANTHA f fj ed j;
   2go;2ed;2fw;@11305 1b A;2AA;2I;2II;2U;2UU;2dl R;3L;@1130F 2EE;2AI;@11313 2OO;2AU;2KA;2cw;2GA;2eg;2ck;2CA;2cs;
   2JA;2fv;2cu;2ee;2fb;2ef;2ff;2eq;2TA;2df;2DA;2eh;2NA;@1132A 2PA;2dq;2BA;2er;2MA;2YA;2RA;@11332 2LA;2hp;
   @11335 2VA;2cl;2fc;2SA;2HA;@1133B 0fj BINDU n;0GRANTHA f ig;2lf;1bf f AA;3I;3II;3U;3UU;3dl R;4RR;@11347 3EE;3AI;
   @1134B 3OO;3AU;1f fe;@11350 1OM;@11357 1AU md q;@1135D 1f PLUTA;1b VEDIC ed;3p ed;2dl RR;3LL;1bf f dl L;4LL;
   @11366 0fj GRANTHA bh bt;3m;3l;3s;3w;3aa;3ag;@11370 2b A;3KA;3NA;3VI;3PA;@11400 0NEWA b A;2AA;2I;2II;2U;2UU;
   2dl R;3RR;3L;3LL;2E;2AI;2O;2AU;2KA;2cw;2GA;2eg;2ck;2NGHA;2CA;2cs;2JA;2fv;2cu;2NYHA;2ee;2fb;2ef;2ff;2eq;2TA;2df;
   2DA;2eh;2NA;2NHA;2PA;2dq;2BA;2er;2MA;2MHA;2YA;2RA;2RHA;2LA;2LHA;2WA;2cl;2fc;2SA;2HA;1bf f AA;3I;3II;3U;3UU;
   3dl R;4RR;4L;4LL;3E;3AI;3O;3AU;1f fe;2go;2ed;2fw;2ig;2lf;2o ed;1OM;1SIDDHI;1gx;1p gx;1de;1GAP qu;1jz f;1bh bt;
   2m;2l;2s;2w;2aa;2ag;2ao;2ah;2ar;1p de;1PLACEHOLDER q;@1145D 1INSERTION f;1SANDHI q;1b VEDIC ed;1f uq;2vb;
   @11480 0TIRHUTA ANJI;1b A;2AA;2I;2II;2U;2UU;2dl R;3RR;3L;3LL;2E;2AI;2O;2AU;2KA;2cw;2GA;2eg;2ck;2CA;2cs;2JA;2fv;
   2cu;2ee;2fb;2ef;2ff;2eq;2TA;2df;2DA;2eh;2NA;2PA;2dq;2BA;2er;2MA;2YA;2RA;2LA;2VA;2cl;2fc;2SA;2HA;1bf f AA;3I;3II;
   3U;3UU;3dl R;4RR;4L;4LL;3E;3ec E;3AI;3O;3ec O;3AU;1f go;2ed;2fw;2fe;2ig;2lf;1GVANG;1jz f;1OM;@114D0 1bh bt;2m;
   2l;2s;2w;2aa;2ag;2ao;2ah;2ar;@11580 0tp b A;2AA;2I;2II;2U;2UU;2dl R;3RR;3L;3LL;2E;2AI;2O;2AU;2KA;2cw;2GA;2eg;
   2ck;2CA;2cs;2JA;2fv;2cu;2ee;2fb;2ef;2ff;2eq;2TA;2df;2DA;2eh;2NA;2PA;2dq;2BA;2er;2MA;2YA;2RA;2LA;2VA;2cl;2fc;2SA;
   2HA;1bf f AA;3I;3II;3U;3UU;3dl R;4RR;@115B8 3E;3AI;3O;3AU;1f go;2ed;2fw;2fe;2ig;2tp;1gx;1p gx;1gv r;2ak;
   1REPETITION MARK-1;+2;1fs OF TEXT q;1in q a TRIDENT g wl ORNAMENTS;6fm rk;4RAYS g fm rk;7p rk;7em rk;3p bi;
   5a RAYS;3a p rk;4em rk;4pf rk;4SEPTUPLE rk;4nd g RAYS;6l ENCLOSURES;6w ENCLOSURES;1b THREE-CIRCLE is I;
   2TWO-CIRCLE is I;4II;2is U;1bf f is U;4UU;@11600 0MODI b A;2AA;2I;2II;2U;2UU;2dl R;3RR;3L;3LL;2E;2AI;2O;2AU;2KA;
   2cw;2GA;2eg;2ck;2CA;2cs;2JA;2fv;2cu;2ee;2fb;2ef;2ff;2eq;2TA;2df;2DA;2eh;2NA;2PA;2dq;2BA;2er;2MA;2YA;2RA;2LA;2VA;
   2cl;2fc;2SA;2HA;2hp;1bf f AA;3I;3II;3U;3UU;3dl R;4RR;4L;4LL;3E;3AI;3O;3AU;1f ed;2fw;2fe;2ARDHACANDRA;1gx;1p gx;
   1jz f;1f HUVA;@11650 1bh bt;2m;2l;2s;2w;2aa;2ag;2ao;2ah;2ar;@11660 0MONGOLIAN po a ea;1db po;1p po a ea;
   1em po a ea;1po a p ea;1db po a ea;4p ea;1cv po;3a p ea;1SWIRL po;3a ea;4p ea;1by SWIRL po a p ea;
   @11680 0TAKRI b A;2AA;2I;2II;2U;2UU;2E;2AI;2O;2AU;2KA;2cw;2GA;2eg;2ck;2CA;2cs;2JA;2fv;2cu;2ee;2fb;2ef;2ff;2eq;
   2TA;2df;2DA;2eh;2NA;2PA;2dq;2BA;2er;2MA;2YA;2RA;2LA;2VA;2cl;2SA;2HA;2RRA;1f ed;2fw;1bf f AA;3I;3II;3U;3UU;3E;
   3AI;3O;3AU;1f fe;2ig;1b jq cw;1jz f;@116C0 1bh bt;2m;2l;2s;2w;2aa;2ag;2ao;2ah;2ar;@11700 0AHOM b KA;2cw;2ck;2NA;
   2TA;2is TA;2PA;2dq;2BA;2MA;2JA;2cs;2df;2RA;2LA;2SA;2cu;2HA;2A;2DA;2eh;2GA;2is GA;2eg;2er;2fv;2is BA;
   @1171D 1it f bs LA;4RA;4LIGATING RA;1bf f A;3AA;3I;3II;3U;3UU;3E;3AW;3O;3AI;3AM;1f KILLER;@11730 1bh bt;2m;2l;
   2s;2w;2aa;2ag;2ao;2ah;2ar;1cz ca;2fd;1f c in;2in;2RULAI;1z VI;1b CA;2ee;2fb;2ef;2ff;2eq;2hp;@11800 0DOGRA b A;
   2AA;2I;2II;2U;2UU;2E;2AI;2O;2AU;2KA;2cw;2GA;2eg;2ck;2CA;2cs;2JA;2fv;2cu;2ee;2fb;2ef;2ff;2eq;2TA;2df;2DA;2eh;2NA;
   2PA;2dq;2BA;2er;2MA;2YA;2RA;2LA;2VA;2cl;2fc;2SA;2HA;2RRA;1bf f AA;3I;3II;3U;3UU;3dl R;4RR;3E;3AI;3O;3AU;1f ed;
   2fw;2fe;2ig;1jz f;@118A0 0WARANG CITI e b NGAA;4A;4WI;4YU;4YA;4YO;4II;4UU;4E;4O;4ANG;4GA;4KO;4ENY;4YUJ;4UC;4ENN;
   4ODD;4TTE;4NUNG;4DA;4AT;4AM;4BU;4PU;4HIYO;4HOLO;4HORR;4HAR;4SSUU;4SII;4VIYO;2c b NGAA;4A;4WI;4YU;4YA;4YO;4II;
   4UU;4E;4O;4ANG;4GA;4KO;4ENY;4YUJ;4UC;4ENN;4ODD;4TTE;4NUNG;4DA;4AT;4AM;4BU;4PU;4HIYO;4HOLO;4HORR;4HAR;4SSUU;4SII;
   4VIYO;2bh bt;3m;3l;3s;3w;3aa;3ag;3ao;3ah;3ar;2cz ca;3fd;3jg;3ke;3gh;3ky;3gc;3lx;3fn;@118FF 2OM;0DIVES AKURU b A;
   3AA;3I;3II;3U;3UU;3E;@11909 3O;@1190C 3KA;3cw;3GA;3eg;3ck;3CA;3cs;3JA;@11915 3cu;3ee;@11918 3ef;3ff;3eq;3TA;3df;
   3DA;3eh;3NA;3PA;3dq;3BA;3er;3MA;3YA;3YYA;3RA;3LA;3VA;3cl;3fc;3SA;3HA;3hp;3ZA;2bf f AA;4I;4II;4U;4UU;4E;
   @11937 4AI;4O;@1193B 2f ed;3go;3HALANTA;2fe;2PREFIXED NASAL f;2bs YA;2ab RA;2bs RA;2f ig;2p gx;2GAP qu;
   2fs OF TEXT q;@11950 2bh bt;3m;3l;3s;3w;3aa;3ag;3ao;3ah;3ar;@119A0 0NANDINAGARI b A;2AA;2I;2II;2U;2UU;2dl R;3RR;
   @119AA 2E;2AI;2O;2AU;2KA;2cw;2GA;2eg;2ck;2CA;2cs;2JA;2fv;2cu;2ee;2fb;2ef;2ff;2eq;2TA;2df;2DA;2eh;2NA;2PA;2dq;
   2BA;2er;2MA;2YA;2RA;2LA;2VA;2cl;2fc;2SA;2HA;2hp;2RRA;1bf f AA;3I;3II;3U;3UU;3dl R;4RR;@119DA 3E;3AI;3O;3AU;
   1f ed;2fw;2fe;2lf;2tp;1HEADSTROKE;1bf f zf E;@11A00 0ZANABAZAR au b A;2bf f I;4UE;4U;4E;4OE;4O;4AI;4AU;4ch I;
   3md q;2b KA;3cw;3GA;3eg;3ck;3CA;3cs;3JA;3cu;3ee;3fb;3ef;3ff;3eq;3TA;3df;3DA;3eh;3NA;3PA;3dq;3BA;3er;3MA;3hc;3mk;
   3DZA;3DZHA;3ZHA;3ZA;3-A;3YA;3RA;3LA;3VA;3cl;3fc;3SA;3HA;3KSSA;2o it q;2f fe;3go;4a ea;3lv a ea;3ed;3fw;
   2CLUSTER-INITIAL b RA;2CLUSTER-FINAL b YA;4RA;4LA;4VA;2ab ju q;2CLOSING ju q;2q pi;3lr;3p lr;3bz pi;
   2ab DOUBLE-LINED ju q;2CLOSING DOUBLE-LINED ju q;2SUBJOINER;@11A50 0SOYOMBO b A;1bf f I;3UE;3U;3E;3O;3OE;3AI;
   3AU;3dl R;4L;2md q;1b KA;2cw;2GA;2eg;2ck;2CA;2cs;2JA;2fv;2cu;2ee;2fb;2ef;2ff;2eq;2TA;2df;2DA;2eh;2NA;2PA;2dq;
   2BA;2er;2MA;2hc;2mk;2DZA;2ZHA;2ZA;2-A;2YA;2RA;2LA;2VA;2cl;2fc;2SA;2HA;2KSSA;1f uq;2vb;1CLUSTER-INITIAL b RA;3LA;
   3cl;3SA;1o it f G;4K;4NG;4D;4N;4B;4M;4R;4L;4SH;4S;4-A;1f ed;2fw;1vo q;1SUBJOINER;1q pi;2lr;2p lr;2PLUTA;
   1ju q a hz g SUN g em FLAME;8FLAME;7;1TERMINAL MARK-1;+1;@11AB0 0CANADIAN SYLLABICS NATTILIK HI;3HII;3HO;3HOO;
   3HA;3HAA;3SHRI;3SHRII;3SHRO;3SHROO;3SHRA;3SHRAA;2SPE;2SPI;2SPO;2SPA;0PAU CIN HAU b PA;4KA;4LA;4MA;4DA;4ZA;4VA;
   4ck;4HA;4GA;4cw;4SA;4BA;4CA;4TA;4df;4NA;4dq;4RA;4FA;4cs;4A;4E;4I;4O;4U;4UA;4IA;4o P;5K;5T;5M;5N;5L;5W;5NG;5Y;
   3nr cd bz;5;3SANDHI hm cn;3nr cd bz o;5o;3SANDHI hm cn o;4cd bz;5;5bz o;5o;3MID-LEVEL cd;3hm cn ji;
   3MID-LEVEL cd bz o;5o;3LOW-FALLING cd bz;5;3hm cn;3LOW-FALLING cd bz o;5o;3hm cn o;@11C00 0BHAIKSUKI b A;2AA;2I;
   2II;2U;2UU;2dl R;3RR;3L;@11C0A 2E;2AI;2O;2AU;2KA;2cw;2GA;2eg;2ck;2CA;2cs;2JA;2fv;2cu;2ee;2fb;2ef;2ff;2eq;2TA;
   2df;2DA;2eh;2NA;2PA;2dq;2BA;2er;2MA;2YA;2RA;2LA;2VA;2cl;2fc;2SA;2HA;1bf f AA;3I;3II;3U;3UU;3dl R;4RR;4L;
   @11C38 3E;3AI;3O;3AU;1f go;2ed;2fw;2fe;2lf;1gx;1p gx;1ml gv;1GAP FILLER-1;+1;@11C50 1bh bt;2m;2l;2s;2w;2aa;2ag;
   2ao;2ah;2ar;1cz m;2l;2s;2w;2aa;2ag;2ao;2ah;2ar;2ca;2fd;2jg;2ke;2gh;2ky;2gc;2lx;2fn;1HUNDREDS UNIT q;
   @11C70 0MARCHEN ju q;1q lr;1b KA;2cw;2GA;2ck;2CA;2cs;2JA;2cu;2TA;2df;2DA;2NA;2PA;2dq;2BA;2MA;2hc;2mk;2DZA;2WA;
   2ZHA;2ZA;2-A;2YA;2RA;2LA;2cl;2SA;2HA;2A;@11C92 1uy b KA;3cw;3GA;3ck;3CA;3cs;3JA;3cu;3TA;3df;3DA;3NA;3PA;3dq;3BA;
   3MA;3hc;3mk;3DZA;3WA;3ZHA;3ZA;@11CA9 3YA;3RA;3LA;3cl;3SA;3HA;3A;1bf f AA;3I;3U;3E;3O;1f ed;2go;
   @11D00 0MASARAM GONDI b A;3AA;3I;3II;3U;3UU;3E;@11D08 3AI;3O;@11D0B 3AU;3KA;3cw;3GA;3eg;3ck;3CA;3cs;3JA;3fv;3cu;
   3ee;3fb;3ef;3ff;3eq;3TA;3df;3DA;3eh;3NA;3PA;3dq;3BA;3er;3MA;3YA;3RA;3LA;3VA;3cl;3fc;3SA;3HA;3hp;3KSSA;3JNYA;
   3TRA;2bf f AA;4I;4II;4U;4UU;4dl R;@11D3A 4E;@11D3C 4AI;4O;@11D3F 4AU;2f ed;3fw;3ig;3lv;3HALANTA;2fe;2REPHA;
   2RA-KARA;@11D50 2bh bt;3m;3l;3s;3w;3aa;3ag;3ao;3ah;3ar;@11D60 0GUNJALA GONDI b A;3AA;3I;3II;3U;3UU;@11D67 3EE;
   3AI;@11D6A 3OO;3AU;3YA;3VA;3BA;3er;3MA;3KA;3cw;3TA;3df;3LA;3GA;3eg;3DA;3eh;3NA;3CA;3cs;3ee;3fb;3hp;3JA;3fv;3ef;
   3ff;3ck;3PA;3dq;3HA;3RA;3SA;2bf f AA;4I;4II;4U;4UU;@11D90 4EE;4AI;@11D93 4OO;4AU;2f ed;3fw;2fe;2OM;
   @11DA0 2bh bt;3m;3l;3s;3w;3aa;3ag;3ao;3ah;3ar;@11EE0 0MAKASAR b KA;2GA;2ck;2PA;2BA;2MA;2TA;2DA;2NA;2CA;2JA;2cu;
   2YA;2RA;2LA;2VA;2SA;2A;1ANGKA;1bf f I;3U;3E;3O;1PASSIMBANG;1fs OF in;@11FB0 0LISU b YHA;
   @11FC0 0TAMIL jt m THREE-HUNDRED-AND-TWENTIETH;3zt;3EIGHTIETH;3zl;3FORTIETH;3zm;2s EIGHTIETHS;3SIXTY-FOURTHS;
   2m TWENTIETH;3SIXTEENTH-1;+1;3TENTH;3hu;2s TWENTIETHS;3yj;2m FIFTH;3gj;3HALF-1;+1;2s mh;
   2DOWNSCALING FACTOR KIIZH;1f NEL;2CEVITU;2AAZHAAKKU;2UZHAKKU;2MUUVUZHAKKU;2KURUNI;2PATHAKKU;2MUKKURUNI;2KAACU;
   2PANAM;2PON;2VARAAKAN;2PAARAM;2KUZHI;2VELI;1WET CULTIVATION f;1DRY CULTIVATION f;1LAND f;1SALT PAN f;
   1TRADITIONAL CREDIT f;2cz f;1CURRENT f;1g ODD f;1SPENT f;1TOTAL f;1IN POSSESSION f;1STARTING gq f;1f MUTHALIYA;
   2VAKAIYARAA;@11FFF 1eu fs OF TEXT;0CUNEIFORM f A;3ai A;4BAD;4kg ez;4HA;4IGI;4LAGAR dy;4MUSH;4SAG;2A2;2AB;
   3ai ASH2;4DUN3 dy;4GAL;4kg ez;4HA;4IGI dy;4IMIN;4oh;4SHESH;4U al U al U;3dy;2AB2;3ai BALAG;4kg ez;4ME al EN;
   4SHA3;4lt;2AD;2AK;3ai ERIN2;4SHITA al li;2AL;3ai AL;4DIM2;4li;4HA;4KAD3;4KI;4gd;4USH;2ALAN;2kr;2AMAR;3ai gd;2AN;
   3ay AN;3s ai;3al NAGA sf AN al NAGA;5ga;2ANSHE;2APIN;2ARAD;3ai KUR;2ARKAB;2ASAL2;2en;3ZIDA ez;3KABA ez;
   3ay en TUG2 ay TUG2 TUG2 ay TUG2 PAP;5ay en;7gp en ay en ay en;2ASH2;2ASHGAB;2BA;2BAD;2BAG3;2BAHAR2;2BAL;
   3ay BAL;2BALAG;2ak;2BARA2;2BI;3ai A;4GAR;4IGI dy;2BU;3ay BU AB;5UN;3gp BU;2BULUG;3ay BULUG;2BUR;2BUR2;2DA;2DAG;
   3KISIM5 ai A al MASH;5AMAR;5BALAG;5BI;5GA;6al MASH;5GI;5GIR2;5GUD;5HA;5IR;6al LU;5KAK;5LA;5LU;6al MASH2;5LUM;
   5NE;5PAP al PAP;5SI;5lt;5U2 al GIR2;5USH;2DAM;2DAR;2DARA3;+1;2DI;2DIB;2DIM;3ai gd;2DIM2;2DIN;3of U dy iv;2iv;
   2DU;3ay DU;3dy;3sn;2DUB;3ai ESH2;2DUB2;2DUG;2DUGUD;2DUH;2DUN;2DUN3;3dy;4dy;2DUN4;2DUR2;2E;3ai PAP;
   3ay E ej ay ej;2E2;3ai A al HA al DA;4GAR;4MI;4SAL;4gd;4U;2EDIN;2EGIR;2EL;2EN;3ai kg;5ez;4ME;3gp EN;3sf EN;3ga;
   2EREN;2ERIN2;2ESH2;2EZEN;3ai A;5al LAL;7ai LAL;4AN;4BAD;4DUN3 dy;6dy;4HA;5dy;4IGI dy;4of;5ga;4KU3;4LA;
   4LAL ai LAL;4LI;4LU;4U2;4UD;2GA;3dy;2GA2;3ai A al DA al HA;6HA;6IGI;4AB2 ez al TAB;4AN;4en;4ASH2 al GAL;4BAD;
   4ak al RA;4BUR;5al RA;4DA;4DI;4DIM ai gd;4DUB;4EL;5al LA;4EN;5ai kg ez;4kg ez;4GAR;4GI;4GI4;5al A;4GIR2 al SU;
   4HA al LU al ESH2;4HAL;5al LA;4HI al LI;4HUB2;4IGI dy;4ISH al HU al en;4KAK;4of;4KID;5al LAL;4KU3 al AN;4LA;
   4ME al EN;4MI;4ej;5ay ej;4PA;4SAL;4SAR;4gd;5al TUR;4SHID;4SUM;4lt;4U;4UD;5al DU;3ay GA2;2GABA;3gp GABA;2GAD;
   3ay GAD GAR ay GAR;2GAL;3GAD ay GAD GAR ay GAR;2GALAM;2GAM;2GAN;2kg;3ez;3ay kg;3gp kg;2GAR;2GAR3;2GASHAN;
   2GESHTIN;3ai KUR;2GI;3ai E;4U;3gp GI;2GI4;3ay GI4;3gp GI4;2GIDIM;2GIR2;3dy;2GIR3;3ai A al IGI;4kg ez;4IGI;
   4LU al IGI;4PA;2GISAL;2li;3gp li;3ai BAD;4lt;3ez;2GU;3gp GU;2GU2;3ai KAK;5ai IGI dy;4ej;4SAL al TUG2;3dy;2GUD;
   3ai A al KUR;4KUR;3ay GUD LUGAL;2GUL;2GUM;3ai gd;2GUR;2GUR7;2GURUN;2GURUSH;2HA;3ez;3dy;2HAL;2HI;3ai en;4ASH2;
   4BAD;4iv;4GAD;4KIN;4ej;4gd;4U;2HU;2HUB2;3ai AN;4HAL;4of;4LISH;4UD;2HUL2;2I;3A;2IB;2IDIM;3ay IDIM BUR;5ga;2IG;
   2IGI;3DIB;3RI;3ay IGI SHIR ay SHIR UD ay UD;3dy;2IL;3ai kg ez;2IL2;2IM;3ai lt;3gp IM;3sf IM;3ga;2IMIN;2IN;2IR;
   2ISH;2KA;3ai A;4AD;5al KU3;4ASH2;4BAD;4BALAG;4ak;4BI;4ERIN2;4ESH2;4GA;4GAL;4kg ez;4GAR;5al SHA3 al A;4GI;4GIR2;
   4li al SAR;5gp li;4GU;4GUR7;4IGI;4IM;4KAK;4KI;4KID;4LI;4LU;4ME;5al DU;6GI;6TE;4MI;5al NUNUZ;4NE;4ej;4PI;4RU;4SA;
   4SAR;4cl;4gd;4SHID;4SHU;4SIG;4SUHUR;4TAR;4U;4U2;4UD;4UMUM ai PA;4USH;4ZI;2KA2;3gp KA2;2KAB;2KAD2;+3;3ay KAD5;
   2KAK;3ai IGI dy;2KAL;3ai BAD;3gp KAL;2KAM2;2KAM4;2of;3oh ai U ay oh ai U;3ay of oh ai U ay oh ai U;2KESH2;2KI;
   3ai BAD;4U;4UD;2KID;2KIN;2KISAL;2KISH;2KISIM5;3ay KISIM5;2KU;3ay HI ai ASH2 KU ay HI ai ASH2;2KU3;+1;3ji d;2KU7;
   2KUL;3dy;2KUN;2KUR;3sf KUR;2KUSHU2;2KWU318;2LA;2oh;3ai A;5al DA al HA;6GAR;6LAL;4AL;4AN;4en ZIDA ez;4BAD;4BI;
   4DAR;4EN;4GA;4GAR;4GUD;5al GUD;4HA;4HAL;4HI ai ej;4IGI dy;4IM;5al HA;6LU;4KI;4KIN;4KU3;4KUL;5al HI al A;4oh;
   4LISH;4LU;4LUL;4ME;5al EN;4MUSH;4NE;4gd al SUM;4SHITA al li al ERIN2;7ez;4SHU2;5al SHU2;4SUM;4TAG;4lt;
   4TE al A al SU al NA;4U;5al A;6U al U;4U2 al en;4UD;4USH;3ga;2LAGAR;3ai gd;5al SUM;3dy;4ay LAGAR dy gd;2LAHSHU;
   2LAL;3ai LAL;2ft;3ai KUR;5al RU;2LI;2LIL;2LIMMU2;2LISH;2LU;3ai BAD;2LU2;3ai AL;4BAD;4ESH2;5ez;4kg ez;4HI ai BAD;
   4IM;4KAD2;+1;5al en;4KI;4LA al en;4oh;4ME al EN;4NE;4NU;4SI al en;4SIK2 al BU;4TUG2;3ez;3gp LU2;3sf LU2;3ga;3sn;
   2LU3;2LUGAL;3ay LUGAL;3sf LUGAL;3sn;2LUH;2LUL;2LUM;3ay LUM;5GAR ay GAR;2MA;3ai lt;3dy;2MA2;2MAH;2MAR;2MASH;
   2MASH2;2ME;2MES;2MI;2MIN;2MU;3ay MU;2MUG;3dy;2MUNSUB;2MURGU2;2MUSH;3ai A;4KUR;4ZA;3ay MUSH;5ai A al NA;3gp MUSH;
   2MUSH3;3ai A;5al DI;4DI;3dy;2NA;2NA2;2NAGA;3cv;3ai SHU ez;3sf NAGA;2NAGAR;2NAM NUTILLU;3;2NAM2;2NE;3ai A;4UD;
   3sn;2NI;3ai E;2NI2;2NIM;3ai kg ez;4GAR al kg ez;2NINDA2;3ai AN;4en;5al en;4GUD;4ME al kg ez;4NE;4ej;4gd;
   5al A AN;6en;7al en;4U2 al en;4USH;2NISAG;2NU;2NU11;2ej;3LAGAR ai GAR;5MASH;5SAL;6ay ej LAGAR ai SAL;5USH;3ez;
   3ay ej;3gp ej;5LAGAR ay LAGAR;2NUNUZ;3AB2 ai ASHGAB;5BI;5DUG;5GUD;5IGI dy;5KAD3;5LA;5NE;5SILA3;5U2;
   3KISIM5 ai BI;6U;2PA;2PAD;2PAN;2PAP;2PESH2;2PI;3ai A;4AB;4BI;4BU;4E;4I;4IB;4U;4U2;3gp PI;2PIRIG;3ai KAL;4UD;4ZA;
   3sf PIRIG;2RA;2RAB;2RI;2RU;2SA;2SAG NUTILLU;3;3ai A;4DU;4DUB;4HA;4KAK;4KUR;4LUM;4MI;4ej;4SAL;4SHID;4TAB;4U2;4UB;
   4UM;4UR;4USH;3ay SAG;3dy;2SAL;3oh ai ASH2;2SANGA2;2SAR;2cl;2SHA3;3ai A;4BAD;4li;4NE;4SHU2;4TUR;4U;5al A;2SHA6;
   2SHAB6;2qf;2gd;3HU;3ay gd GAD ay GAD GAR ay GAR;5TAB ay TAB GAR ay GAR;2SHEG9;2SHEN;2SHESH;2SHESH2;2SHESHLAM;
   2SHID;3ai A;4IM;2SHIM;3ai A;4BAL;4BULUG;4DIN;4GAR;4IGI;5dy;4KUSHU2;4LUL;4MUG;4SAL;2SHINIG;2SHIR;3ez;
   3ay SHIR BUR ay BUR;2SHITA;2SHU;3ay cv SHU;2SHU2;2SHUBUR;2SI;3dy;2SIG;2SIG4;3ay SIG4 SHU2;2SIK2;2SILA3;2SU;
   3ay SU;2SUD;2SUD2;2SUHUR;2SUM;2SUMASH;2SUR;2SUR9;2TA;3ek;3ai HI;4MI;3dy;2TAB;3ay TAB NI ay NI iv ay iv;3ga;2TAG;
   3ai BI;4GUD;4gd;4SHU;4TUG2;4UD;2lt;2TAR;2TE;3dy;2TI;3ez;2TIL;2TIR;3ai lt;3ay TIR;5GAD ay GAD GAR ay GAR;2TU;
   2TUG2;2TUK;2TUM;2TUR;3ay TUR ZA ay ZA;2U;3GUD;3U U;3ay U PA ay PA GAR ay GAR;5SUR ay SUR;5U ch ay U ch;2U2;2UB;
   2UD;3KUSHU2;3ai BAD;4MI;4U al U al U;9dy;3dy;3sn;4ai BAD;2UDUG;2UM;3ai oh;4ME al DA;4SHA3;4U;2UMBIN;2UMUM;
   3ai of;4PA;2UN;3dy;2UR;3gp UR;3sn;2UR2;3ai A al HA;6NA;4AL;4HA;4ej;4U2;5al en;6BI;2UR4;2URI;2URI3;2URU;3ai A;
   4ASHGAB;4ak;4DUN;4GA;4GAL;4kg ez;4GAR;4GU;4HA;4IGI;4IM;4ISH;4KI;4LUM;4MIN;4PA;4gd;4SIG4;4TU;4U al GUD;4UD;
   4URUDA;2URUDA;3ai U;2USH;3ai A;4KU;4KUR;4lt;2USHX;2USH2;2USHUMX;2UTUKI;2UZ3;3ai of;2UZU;2ZA;3ez;3ga ai KUR;2ZAG;
   2ZAMX;2ZE2;2ZI;3ay ZI;2ZI3;2ZIB;3KABA ez;2ZIG;2ZIZ2;2ZU;2ZU5;3ai A;2ZUBUR;2ZUM;2KAP ELAMITE;2AB ai ej;2AB2 ai A;
   2AMAR ai KUG;2DAG KISIM5 ai U2 al MASH;2DAG3;2iv al SHU;2DUB ai gd;2EZEN ai GUD;4gd;2GA2 ai AN al KAK al A;
   4ASH2;2GE22;2GIG;2HUSH;2KA ai ANSHE;4ASH3;4li;4GUD;4HI ai ASH2;4LUM;4PA;4SHUL;4TU;4UR2;2oh ai GI;2LU2 sn ai BAD;
   3ai ESH2 al LAL;4SHU;2MESH;2MUSH3 ai ZA;2NA4;2NIN;2NIN9;2NINDA2 ai BAL;4GI;2NU11 db fn dx;2PESH2 ek;2PIR2;
   2SAG ai IGI dy;2TI2;2UM ai ME;2U U;@12400 1NUMERIC f l en;3s en;3w en;3aa en;3ag en;3ao en;3ah en;3ar en;3s iv;
   3w iv;3aa iv;3ag iv;3ao iv;3ah iv;3ar iv;3w U;3aa U;3ag U;3ao U;3ah U;3ar U;3m GESH2;3l GESH2;3s GESH2;3w GESH2;
   3aa GESH2;3ag GESH2;3ao GESH2;3ah GESH2;3ar GESH2;3m GESHU;3l GESHU;3s GESHU;3w GESHU;3aa GESHU;3l qf;3s qf;
   5ji d;3w qf;3aa qf;3ag qf;3ao qf;3ah qf;3ar qf;3m SHARU;3l SHARU;3s SHARU;5ji d;3w SHARU;3aa SHARU;
   3qf ai GAL al iv;7MIN;3m BURU;3l BURU;3s BURU;5ji d;3w BURU;3aa BURU;3s ji d ESH16;6ESH21;3w ji d LIMMU;6LIMMU4;
   6LIMMU A;7B;3ag ji d ASH9;3ao ji d IMIN3;6IMIN A;7B;3ah ji d USSU;6USSU3;3ar ji d ILIMMU;6ILIMMU3;+1;6ILIMMU A;
   3l en ez;3s en ez;3w en ez;3aa en ez;3ag en ez;3m BAN2;3l BAN2;3s BAN2;3w BAN2;5ji d;3aa BAN2;5ji d;3NIGIDAMIN;
   3NIGIDAESH;3m ESHE3;3l ESHE3;3m nw iv;3l rc iv;3aa SIXTHS iv;3m nw ji d A;3l rc ji d A;3m hu en;4gj en;
   3du ASSYRIAN m SIXTH;6gj;3m gj GUR;4ap GUR;3ELAMITE m nw;4l rc;4ke;4gh;3w U ji d;3aa U ji d;3ag U ji d;
   3ao U ji d;3ah U ji d;3ar U ji d;@12470 1eu f du ASSYRIAN ml ue;3af gm;3ep gm;4TRICOLON;4QUADCOLON;
   @12480 1f AB ai ej ez;4SHU2;2AD ai ESH2;2BAD ai iv ez;2BAHAR2 ai AB2;4NI;4ZA;2BU ay BU ai NA2;2DA ai lt;
   2DAG ai KUR;2DIM ai IGI;4U U U;2DIM2 ai UD;2DUG ai ANSHE;4en;5AT k;4DIN;4DUN;4ERIN2;4GA;4GI;4GIR2 dy;4li;4HA;
   4HI;4IGI dy;4of;4KUR;4KUSHU2;5al of;4LAK-020;4ft;5ai KUR;4LUH al li;4MASH;4MES;4MI;4NI;4PI;4gd;4SI dy;
   2E2 ai KUR;4PAP;2ERIN2 X;2ESH2 gp ESH2;2EZEN sn ai en;5HI;5IGI dy;5LA;5LAL;5ME;5MES;5SU;3ai SU;2GA2 ai BAHAR2;
   4DIM dy;4DUG ai IGI dy;6of;4EREN;4GA;4GAR al DI;6NE;4HA al A;4KUSHU2 al of;4ft;5ai KUR;4LUH;4MUSH;4NE;5al E2;
   6GI;4SHIM;4ZIZ2;2GABA db fn dx;2GESHTIN ai U;2li ai li gp li;2GU2 ai IGI dy;2GUD al li ai lt;2HA ez dy;
   2HI ai en ay HI ai en;2KA ai BU;4KA;4U U U;4UR;2oh ai ZU ay ZU;2LAK-003;2LAK-021;2LAK-025;2LAK-030;2LAK-050;+1;
   2LAK-062;2LAK-079 ay LAK-079 dy;2LAK-080;2LAK-081 ay LAK-081;2LAK-092;2LAK-130;2LAK-142;2LAK-210;2LAK-219;+1;
   2LAK-225;2LAK-228;2LAK-238;2LAK-265;+1;2LAK-343;2LAK-347;+1;2LAK-383;+1;2LAK-390;2LAK-441;2LAK-449;3ai GU;4IGI;
   4PAP al LU3;6PAP al LU3;4U2 al BA;2LAK-450;2LAK-457;2LAK-470;2LAK-483;2LAK-490;2LAK-492;+1;2LAK-495;2LAK-550;
   2LAK-608;2LAK-617;3ai en;4BAD;4DUN3 dy dy;4KU3;4LA;4TAR;4TE;4U2;4UD;4URUDA;2LAK-636;2LAK-648;3ai DUB;4GA;4IGI;
   5dy;4NI;4PAP al PAP al LU3;4SHESH al KI;4UD;4URUDA;2LAK-724;2LAK-749;2LU2 dy ai en;3ai iv;4HAL;4PAP;
   5al PAP al LU3;4lt;2MI al ZA7;2MUSH ay MUSH ai GA;6KAK;2NINDA2 ai DIM dy;4li;4GUL;4HI;4KESH2;4LAK-050;4MASH;
   4PAP al PAP;4U;5al U;4URUDA;2SAG dy ai HA;3ai EN;4gd AT k;4lt;2SHA6 ez;2gd ay gd;3al HUB2;4NAM2;4SAR;
   2SHU2 al DUG ai NI;4E2 ai AN;2SI ai lt;2lt al SAG;2TUM ai kg ez;4s iv;2UR2 cv;3ai UD;2URU ai DARA3;4LAK-668;
   4LU3;2ZA7;2ZU ay ZU al SAR;2ZU5 ai s iv ez;@12F90 0CYPRO-MINOAN f CM001;+1;2CM004;+8;2CM012B;2CM013;2CM015;
   2CM017;2CM019;2CM021;2CM023;+7;2CM033;+8;2CM044;2CM046;+1;2CM049;+7;2CM058;+6;2CM066;+9;2CM075B;2CM076;2CM078;
   +14;2CM094;+11;2CM107;+3;2CM112;2CM114;2CM301;+1;@13000 0EGYPTIAN HIEROGLYPH A001;+4;2A005A;2A006;2A006A;2A006B;
   2A007;+7;2A014A;2A015;+2;2A017A;2A018;+14;2A032A;2A033;+7;2A040A;2A041;+1;2A042A;2A043;2A043A;2A044;+1;2A045A;
   2A046;+24;2B001;+4;2B005A;2B006;+3;2C001;+1;2C002A;2C002B;2C002C;2C003;+7;2C010A;2C011;+13;2D001;+7;2D008A;
   2D009;+18;2D027A;2D028;+3;2D031A;2D032;+2;2D034A;2D035;+11;2D046A;2D047;+1;2D048A;2D049;+1;2D050A;2D050B;2D050C;
   2D050D;2D050E;2D050F;2D050G;2D050H;2D050I;2D051;+1;2D052A;2D053;+1;2D054A;2D055;+12;2D067A;2D067B;2D067C;2D067D;
   2D067E;2D067F;2D067G;2D067H;2E001;+7;2E008A;2E009;2E009A;2E010;+6;2E016A;2E017;2E017A;2E018;+2;2E020A;2E021;+7;
   2E028A;2E029;+5;2E034A;2E036;+2;2F001;2F001A;2F002;+11;2F013A;2F014;+7;2F021A;2F022;+9;2F031A;2F032;+5;2F037A;
   2F038;2F038A;2F039;+6;2F045A;2F046;2F046A;2F047;2F047A;2F048;+3;2F051A;2F051B;2F051C;2F052;+1;2G001;+5;2G006A;
   2G007;2G007A;2G007B;2G008;+3;2G011A;2G012;+8;2G020A;2G021;+5;2G026A;2G027;+9;2G036A;2G037;2G037A;2G038;+5;
   2G043A;2G044;+1;2G045A;2G046;+8;2H001;+5;2H006A;2H007;+1;2I001;+4;2I005A;2I006;+3;2I009A;2I010;2I010A;2I011;
   2I011A;2I012;+3;2K001;+7;2L001;+1;2L002A;2L003;+3;2L006A;2L007;+1;2M001;2M001A;2M001B;2M002;+1;2M003A;2M004;+6;
   2M010A;2M011;+1;2M012A;2M012B;2M012C;2M012D;2M012E;2M012F;2M012G;2M012H;2M013;+2;2M015A;2M016;2M016A;2M017;
   2M017A;2M018;+4;2M022A;2M023;+1;2M024A;2M025;+3;2M028A;2M029;+2;2M031A;2M032;+1;2M033A;2M033B;2M034;+6;2M040A;
   2M041;+3;2N001;+17;2N018A;2N018B;2N019;+6;2N025A;2N026;+7;2N033A;2N034;2N034A;2N035;2N035A;2N036;+1;2N037A;
   2N038;+4;2NL001;+4;2NL005A;2NL006;+11;2NL017A;2NL018;+2;2NU001;+9;2NU010A;2NU011;2NU011A;2NU012;+6;2NU018A;
   2NU019;+3;2NU022A;2O001;2O001A;2O002;+3;2O005A;2O006;2O006A;2O006B;2O006C;2O006D;2O006E;2O006F;2O007;+3;2O010A;
   2O010B;2O010C;2O011;+8;2O019A;2O020;2O020A;2O021;+3;2O024A;2O025;2O025A;2O026;+3;2O029A;2O030;2O030A;2O031;+2;
   2O033A;2O034;+2;2O036A;2O036B;2O036C;2O036D;2O037;+13;2O050A;2O050B;2O051;2P001;2P001A;2P002;+1;2P003A;2P004;+7;
   2Q001;+6;2R001;+1;2R002A;2R003;2R003A;2R003B;2R004;+6;2R010A;2R011;+5;2R016A;2R017;+12;2S001;+1;2S002A;2S003;+3;
   2S006A;2S007;+7;2S014A;2S014B;2S015;+2;2S017A;2S018;+8;2S026A;2S026B;2S027;+8;2S035A;2S036;+10;2T001;+2;2T003A;
   2T004;+3;2T007A;2T008;2T008A;2T009;2T009A;2T010;+1;2T011A;2T012;+4;2T016A;2T017;+15;2T032A;2T033;2T033A;2T034;
   +2;2U001;+5;2U006A;2U006B;2U007;+16;2U023A;2U024;+5;2U029A;2U030;+2;2U032A;2U033;+9;2V001;2V001A;2V001B;2V001C;
   2V001D;2V001E;2V001F;2V001G;2V001H;2V001I;2V002;2V002A;2V003;+4;2V007A;2V007B;2V008;+3;2V011A;2V011B;2V011C;
   2V012;2V012A;2V012B;2V013;+7;2V020A;2V020B;2V020C;2V020D;2V020E;2V020F;2V020G;2V020H;2V020I;2V020J;2V020K;
   2V020L;2V021;+2;2V023A;2V024;+4;2V028A;2V029;2V029A;2V030;2V030A;2V031;2V031A;2V032;+1;2V033A;2V034;+3;2V037A;
   2V038;+2;2V040A;2W001;+2;2W003A;2W004;+5;2W009A;2W010;2W010A;2W011;+3;2W014A;2W015;+2;2W017A;2W018;2W018A;2W019;
   +5;2W024A;2W025;2X001;+3;2X004A;2X004B;2X005;+1;2X006A;2X007;+1;2X008A;2Y001;2Y001A;2Y002;+6;2Z001;+1;2Z002A;
   2Z002B;2Z002C;2Z002D;2Z003;2Z003A;2Z003B;2Z004;2Z004A;2Z005;2Z005A;2Z006;+9;2Z015A;2Z015B;2Z015C;2Z015D;2Z015E;
   2Z015F;2Z015G;2Z015H;2Z015I;2Z016;2Z016A;2Z016B;2Z016C;2Z016D;2Z016E;2Z016F;2Z016G;2Z016H;2AA001;+6;2AA007A;
   2AA007B;2AA008;+24;@13430 2af ti;2bd ti;2INSERT AT fa START;4gk START;4fa fs;4gk fs;2iw ae;2BEGIN SEGMENT;
   2fs SEGMENT;@14400 0ANATOLIAN HIEROGLYPH A001;+9;2A010A;2A011;+15;2A026A;2A027;+12;2A039A;2A040;+1;2A041A;2A042;
   +3;2A045A;2A046;2A046A;2A046B;2A047;+19;2A066A;2A066B;2A066C;2A067;+30;2A097A;2A098;2A098A;2A099;+1;2A100A;
   2A101;2A101A;2A102;2A102A;2A103;+1;2A104A;2A104B;2A104C;2A105;2A105A;2A105B;2A106;+1;2A107A;2A107B;2A107C;2A108;
   +2;2A110A;2A110B;2A111;+4;2A115A;2A116;+9;2A125A;2A126;+9;2A135A;2A136;+66;2A202A;2A202B;2A203;+4;2A207A;2A208;
   +1;2A209A;2A210;+5;2A215A;2A216;2A216A;2A217;+10;2A227A;2A228;+39;2A267A;2A268;+21;2A289A;2A290;+4;2A294A;2A295;
   +4;2A299A;2A300;+9;2A309A;2A310;+19;2A329A;2A330;+1;2A332A;2A332B;2A332C;2A333;+3;2A336A;2A336B;2A336C;2A337;
   +22;2A359A;2A360;+4;2A364A;2A365;+3;2A368A;2A369;+2;2A371A;2A372;+9;2A381A;2A382;2A383 RA OR RI;2A383A;2A384;+2;
   2A386A;2A387;+5;2A393 ah;2A394;+15;2A410 BEGIN vz q;2A410A fs vz q;2A411;+39;2A450A;2A451;+6;2A457A;2A458;+39;
   2A501;+29;@16800 0BAMUM b PHASE-A NGKUE MFON;3GBIEE FON;3PON MFON PIPAEMGBIEE;5PIPAEMBA;3NAA MFON;3SHUENSHUET;
   3TITA MFON;3NZA MFON;3SHINDA PA NJI;3PON PA NJI PIPAEMGBIEE;6PIPAEMBA;3MAEMBGBIEE;3TU MAEMBA;3NGANGU;3MAEMVEUX;
   3MANSUAE;3MVEUAENGAM;3SEUNYAM;3NTOQPEN;3KEUKEUTNDA;3NKINDI;3SUU;3NGKUENZEUM;3LAPAQ;3LET KUT;3NTAP MFAA;3MAEKEUP;
   3PASHAE;3GHEUAERAE;3PAMSHAE;3MON NGGEUAET;3NZUN MEUT;3U YUQ NAE;3GHEUAEGHEUAE;3NTAP NTAA;3SISA;3MGBASA;
   3MEUNJOMNDEUQ;3MOOMPUQ;3KAFA;3PA LEERAEWA;3NDA LEERAEWA;3PET;3MAEMKPEN;3NIKA;3PUP;3TUAEP;3LUAEP;3SONJAM;
   3TEUTEUWEN;3MAENYI;3KET;3NDAANGGEUAET;3KUOQ;3MOOMEUT;3SHUM;3LOMMAE;3FIRI;3ROM;3KPOQ;3SOQ;3MAP PIEET;3SHIRAE;
   3NTAP;3SHOQ NSHUT YUM;3NYIT MONGKEUAEQ;3PAARAE;3NKAARAE;3UNKNOWN;3NGGEN;3MAESI;3NJAM;3MBANYI;3NYET;3TEUAEN;3SOT;
   3PAAM;3NSHIEE;3MAEM;3NYI;3KAQ;3NSHA;3VEE;3LU;3NEN;3NAQ;3MBAQ;2PHASE-B NSHUET;3TU MAEMGBIEE;3SIEE;3SET TU;
   3LOM NTEUM;3MBA MAELEE;3KIEEM;3YEURAE;3MBAARAE;3KAM;3PEESHI;3YAFU LEERAEWA;3ft NSHUT NYAM;3NTIEE SHEUOQ;
   3NDU NJAA;3GHEUGHEUAEM;3PIT;3TU NSIEE;3SHET NJAQ;3SHEUAEQTU;3MFON TEUAEQ;3MBIT MBAAKET;3NYI NTEUM;3KEUPUQ;
   3GHEUGHEN;3KEUYEUX;3LAANAE;3PARUM;3VEUM;3NGKINDI MVOP;3NGGEU MBU;3WUAET;3SAKEUAE;3TAAM;3MEUQ;3NGGUOQ;4cq;
   3MFIYAQ;3SUE;3MBEURI;3MONTIEEN;3NYAEMAE;3PUNGAAM;3MEUT NGGEET;3FEUX;3MBUOQ;3FEE;3KEUAEM;3MA NJEUAENA;4NJUQA;
   3LET;3NGGAAM;3NSEN;3MA;3KIQ;3NGOM;2PHASE-C NGKUE MAEMBA;3NZA;3YUM;3WANGKUOQ;3NGGEN;3NDEUAEREE;3NGKAQ;3GHARAE;
   3MBEEKEET;3GBAYI;3NYIR MKPARAQ MEUN;3NTU MBIT;3MBEUM;3PIRIEEN;3NDOMBU;3MBAA CABBAGE-TREE;3KEUSHEUAEP;3GHAP;
   3KEUKAQ;3YU MUOMAE;3NZEUM;3MBUE;3NSEUAEN;3MBIT;3YEUQ;3KPARAQ;3KAA;3SEUX;3NDIDA;3TAASHAE;3NJUEQ;3TITA YUE;3SUAET;
   3NGGUAEN NYAM;3VEUX;3NANSANAQ;3MA KEUAERI;3NTAA;3NGGUON;3LAP;3MBIRIEEN;3MGBASAQ;3NTEUNGBA;3TEUTEUX;3NGGUM;3FUE;
   3NDEUT;3NSA;3NSHAQ;3BUNG;3VEUAEPEN;3MBERAE;3RU;3NJAEM;3ft;3TITUAEP;3NSUOT NGOM;3NJEEEE;3KET;3NGGU;3MAESI;
   3MBUAEM;3LU;3KUT;3NJAM;3NGOM;3WUP;3NGGUEET;3NSOM;3NTEN;3KUOP NKAARAE;3NSUN;3NDAM;3MA NSIEE;3YAA;3NDAP;3SHUEQ;
   3SETFON;3MBI;3MAEMBA;3MBANYI;3KEUSEUX;3MBEUX;3KEUM;3MBAA PICKET;3YUWOQ;3NJEUX;3MIEE;3MUAE;3SHIQ;3KEN LAW;
   4FATIGUE;3NGAQ;3NAQ;3LIQ;3PIN;3PEN;3TET;2PHASE-D MBUO;3WAP;3NJI;3MFON;3NJIEE;3LIEE;3NJEUT;3NSHEE;3NGGAAMAE;
   3NYAM;3WUAEN;3NGKUN;3SHEE;3NGKAP;3KEUAETMEUN;3TEUT;3SHEUAE;3NJAP;3SUE;3KET;3YAEMMAE;3KUOM;3SAP;3MFEUT;3NDEUX;
   3MALEERI;3MEUT;3SEUAEQ;3YEN;3NJEUAEM;3KEUOT MBUAE;3NGKEURI;3TU;3GHAA;3NGKYEE;3FEUFEUAET;3NDEE;3MGBOFUM;3LEUAEP;
   3NDON;3MONI;3MGBEUN;3PUUT;3MGBIEE;3MFO;3LUM;3NSIEEP;3MBAA;3KWAET;3NYET;3TEUAEN;3SOT;3YUWOQ;3KEUM;3RAEM;3TEEEE;
   3NGKEUAEQ;3MFEUAE;3NSIEET;3KEUP;3PIP;3PEUTAE;3NYUE;3LET;3NGGAAM;3MFIEE;3NGGWAEN;3YUOM;3PAP;3YUOP;3NDAM;3NTEUM;
   3SUAE;3KUN;3NGGEUX;3NGKIEE;3TUOT;3MEUN;3KUQ;3NSUM;3TEUN;3MAENJET;3NGGAP;3LEUM;3NGGUOM;3NSHUT;3NJUEQ;3GHEUAE;3KU;
   3REN du;3TAE;3TOQ;3NYI;3RII;3LEEEE;3MEEEE;3M;3SUU;3MU;3SHII;3SHEUX;3KYEE;3NU;3SHU;3NTEE;3PEE;3NI;3SHOQ;3PUQ;
   3MVOP;3LOQ;3REN MUCH;3TI;3NTUU;3MBAA ao;3SAQ;3FAA;2PHASE-E NDAP;3TOON;3MBEUM;3LAP;3VOM;3LOON;3PAA;3SOM;3RAQ;
   3NSHUOP;3NDUN;3PUAE;3TAM;3NGKA;3KPEUX;3WUO;3SEE;3NGGEUAET;3PAAM;3TOO;3KUOP;3LOM;3NSHIEE;3NGOP;3MAEM;3NGKEUX;
   3NGOQ;3NSHUE;3RIMGBA;3NJEUX;3PEEM;3SAA;3NGGURAE;3MGBA;3GHEUX;3NGKEUAEM;3NJAEMLI;3MAP;3LOOT;3NGGEEEE;3NDIQ;
   3TAEN NTEUM;3SET;3PUM;3NDAA SOFTNESS;3NGGUAESHAE NYAM;3YIEE;3GHEUN;3TUAE;3YEUAE;3PO;3TUMAE;3KEUAE;3SUAEN;
   3TEUAEQ;3VEUAE;3WEUX;3LAAM;3PU;3TAAQ;3GHAAMAE;3NGEUREUT;3SHEUAEQ;3MGBEN;3MBEE;3NZAQ;3NKOM;3GBET;3TUM;3KUET;3YAP;
   3NYI CLEAVER;3YIT;3MFEUQ;3NDIAQ;3PIEEQ;3YUEQ;3LEUAEM;3FUE;3GBEUX;3NGKUP;3KET;3MAE;3NGKAAMI;3GHET;3FA;3NTUM;
   3PEUT;3YEUM;3NGGEUAE;3NYI kt;3NZUQ;3POON;3MIEE;3FUET;3NAE;3MUAE;3GHEUAE;3FU I;3MVI;3PUAQ;3NGKUM;3KUT;3PIET;
   3NTAP;3YEUAET;3NGGUP;3PA PEOPLE;3FU CALL;3FOM;3NJEE;3A;3TOQ;3O;3I;3LAQ;3PA PLURAL;3TAA;3TAQ;3NDAA MY HOUSE;
   3SHIQ;3YEUX;3NGUAE;3YUAEN;3YOQ SWIMMING;4COVER;3YUQ;3YUN;3KEUX;3PEUX;3NJEE EPOCH;3PUE;3WUE;3FEE;3VEE;3LU;3MI;
   3REUX;3RAE;3NGUAET;3ck;3SHO;3SHOQ;3FU REMEDY;3NA;3PI;3LOQ;3KO;3MEN;3MA;3MAQ;3TEU;3KI;3MON;3ca;3FAQ;3GHOM;
   2PHASE-F KA;3U;3KU;3EE;3REE;3TAE;3NYI;3LA;3RII;3RIEE;3MEEEE;3TAA;3NDAA;3NJAEM;3M;3SUU;3SHII;3SI;3SEUX;3KYEE;
   3KET;3NUAE;3NU;3NJUAE;3YOQ;3SHU;3YA;3NSHA;3PEUX;3NTEE;3WUE;3PEE;3RU;3NI;3REUX;3KEN;3NGKWAEN;3NGGA;3SHO;3PUAE;
   3FOM;3WA;3LI;3LOQ;3KO;3MBEN;3REN;3MA;3MO;3MBAA;3TET;3KPA;3SAMBA;3VUEQ;@16A40 0MRO b TA;2NGI;2YO;2MIM;2BA;2DA;2A;
   2PHI;2KHAI;2HAO;2DAI;2CHU;2KEAAE;2OL;2MAEM;2NIN;2PA;2OO;2O;2RO;2SHI;2THEA;2EA;2WA;2E;2KO;2LAN;2LA;2HAI;2RI;2TEK;
   @16A60 1bh bt;2m;2l;2s;2w;2aa;2ag;2ao;2ah;2ar;@16A6E 1gx;1p gx;0TANGSA b OZ;2OC;2OQ;2OX;2AZ;2AC;2AQ;2AX;2VZ;2VC;
   2VQ;2VX;2EZ;2EC;2EQ;2EX;2IZ;2IC;2IQ;2IX;2UZ;2UC;2UQ;2UX;2AWZ;2AWC;2AWQ;2AWX;2UIZ;2UIC;2UIQ;2UIX;2o NG;2bz UEX;
   2ec UEZ;3AWX;2UEC;2UEZ;2UEQ;2UEX;2UIUZ;2UIUC;2UIUQ;2UIUX;2MZ;2MC;2MQ;2MX;2KA;2cw;2GA;2ck;2SA;2YA;2WA;2PA;2cu;
   2dq;2BA;2MA;2NA;2HA;2LA;2HTA;2TA;2DA;2RA;2NHA;2cl;2CA;2hc;2eg;2HTTA;2df;2XA;2FA;2eh;2cs;2ZA;@16AC0 1bh bt;2m;2l;
   2s;2w;2aa;2ag;2ao;2ah;2ar;@16AD0 0BASSA VAH b ENNI;3KA;3SE;3FA;3MBE;3YIE;3GAH;3DHII;3KPAH;3JO;3HWAH;3WA;3ZO;
   3GBU;3DO;3CE;3UWU;3TO;3BA;3VU;3YEIN;3PA;3WADDA;3A;3O;3OO;3U;3EE;3E;3I;@16AF0 2fj cf cd;3bn cd;3MID cd;
   3LOW-MID cd;3HIGH-LOW cd;2eb cn;@16B00 0PAHAWH HMONG bf KEEB;3KEEV;3KIB;3KIV;3KAUB;3KAUV;3KUB;3KUV;3KEB;3KEV;
   3KAIB;3KAIV;3KOOB;3KOOV;3KAWB;3KAWV;3KUAB;3KUAV;3KOB;3KOV;3KIAB;3KIAV;3KAB;3KAV;3KWB;3KWV;3KAAB;3KAAV;2it VAU;
   3NTSAU;3LAU;3HAU;3NLAU;3RAU;3NKAU;3QHAU;3YAU;3HLAU;3MAU;3CHAU;3NCHAU;3HNAU;3PLHAU;3NTHAU;3NAU;3AU;3XAU;3CAU;
   2q CIM TUB;4SO;4KES;4KHAV;4SUAM;4HOM;4TAUM;2f VOS THOM;4TSHAB CEEB;3CIM CHEEM;3VOS THIAB;4FEEM;3XYEEM NTXIV;
   4RHO;4TOV;4FAIB;3VOS SEEV;3MEEJ SUAB;3VOS NRUA;3IB YAM;3XAUS;3CIM TSOV ROG;@16B50 2bh bt;3m;3l;3s;3w;3aa;3ag;
   3ao;3ah;3ar;@16B5B 2cz TENS;3HUNDREDS;3ca su;3tk;3aq tk;3ca BILLIONS;3TRILLIONS;@16B63 2f VOS LUB;3XYOO;3HLI;
   3THIRD-STAGE HLI;3ZWJ THAJ;3HNUB;3NQIG;3XIAB;3NTUJ;3AV;3TXHEEJ CEEV;3MEEJ TSEEB;3TAU;3LOS;3MUS;
   3CIM HAIS LUS NTOG NTOG;4CUAM TSHOOJ;4TXWV;5CHWV;4PUB DAWB;4NRES TOS;@16B7D 2CLAN f TSHEEJ;4YEEG;4LIS;4LAUJ;
   4XYOOJ;4KOO;4HAWJ;4MUAS;4THOJ;4TSAB;4PHAB;4KHAB;4HAM;4VAJ;4FAJ;4YAJ;4TSWB;4KWM;4VWJ;@16E40 0MEDEFAIDRIN e b M;
   3S;3V;3W;3ATIU;3Z;3KP;3P;3T;3G;3F;3I;3K;3A;3J;3E;3B;3C;3U;3YU;3L;3Q;3HP;3NY;3X;3D;3OE;3N;3R;3O;3AI;3Y;1c b M;3S;
   3V;3W;3ATIU;3Z;3KP;3P;3T;3G;3F;3I;3K;3A;3J;3E;3B;3C;3U;3YU;3L;3Q;3HP;3NY;3X;3D;3OE;3N;3R;3O;3AI;3Y;1bh bt;2m;2l;
   2s;2w;2aa;2ag;2ao;2ah;2ar;1cz ca;2ob;2na;2st;2rt;2pa;2qg;2sm;2qs;2sd;1bh m is d;2l is d;2s is d;1de;1eb cn;
   1z AIVA;1hy OH;@16F00 0MIAO b PA;2BA;2YI PA;2PLA;2MA;2MHA;2jq MA;2FA;2VA;2VFA;2TA;2DA;2YI ee;3TA;2ee;2ef;2NA;
   2NHA;2YI eq;2jq NA;2eq;2NNHA;2LA;2LYA;2LHA;2LHYA;2TLHA;2DLHA;2TLHYA;2DLHYA;2KA;2GA;2YI KA;2QA;2QGA;2ck;2NGHA;
   2jq ck;2HA;2XA;2eg;2GHHA;2TSSA;2DZZA;2cu;2NYHA;2mk;2DZHA;2YI mk;3DZHA;2REFORMED mk;2cl;2fc;2ZHA;2ZSHA;2hc;2DZA;
   2YI hc;2SA;2ZA;2ZSA;2ZZA;2ZZSA;2jq ZZA;2ZZYA;2ZZSYA;2WA;2AH;2HHA;2BRI;2SYI;2DZYI;2TE;2TSE;2RTE;
   @16F4F 1f it gz ak;1b za;1f ASPIRATION;2REFORMED VOICING;3ASPIRATION;1bf f A;3AA;3AHH;3AN;3ANG;3O;3OO;3WO;3W;3E;
   3EN;3ENG;3OEY;3I;3IA;3IAN;3IANG;3IO;3IE;3II;3IU;3ING;3U;3UA;3UAN;3UANG;3UU;3UEI;3UNG;3Y;3YI;3AE;3AEE;3ERR;
   3qd ERR;3ER;3qd ER;3AI;3EI;3AU;3OU;3N;3NG;3UOG;3YUI;3OG;3OER;3VW;3IG;3EA;3IONG;3UI;@16F8F 1cd i;2fa i;2j;2n;
   1b TONE-2;+6;2REFORMED TONE-1;+1;3TONE-4;+2;3TONE-8;@16FE0 0TANGUT pw q;0NUSHU pw q;0du CHINESE x q;2pw q;
   0KHITAN c im qu;@16FF0 0VIETNAMESE is READING q CA;4NHAY;@18800 0TANGUT COMPONENT-001;+767;
   @1AFF0 0pc b MINNAN TONE-2;+3;@1AFF5 3TONE-7;+1;3NASALIZED TONE-1;+4;@1AFFD 4TONE-7;+1;@1B000 2jq E;0uk b jq YE;
   0HENTAIGANA b A-1;+2;2A-WO;2I-1;+3;2U-1;+4;2E-2;+4;2O-1;+2;2KA-1;+10;2KA-KE;2KI-1;+7;2KU-1;+6;2KE-1;+5;2KO-1;+2;
   2KO-KI;2SA-1;+7;2SI-1;+5;2SU-1;+7;2SE-1;+4;2SO-1;+6;2TA-1;+3;2TI-1;+6;2TU-1;+3;2TU-TO;2TE-1;+8;2TO-1;+5;2TO-RA;
   2NA-1;+8;2NI-1;+6;2NI-TE;2NU-1;+2;2NE-1;+5;2NE-KO;2NO-1;+4;2HA-1;+10;2HI-1;+6;2HU-1;+2;2HE-1;+6;2HO-1;+7;2MA-1;
   +6;2MI-1;+6;2MU-1;+3;2ME-1;+1;2ME-MA;2MO-1;+5;2YA-1;+4;2YA-YO;2YU-1;+3;2YO-1;+5;2RA-1;+3;2RI-1;+6;2RU-1;+5;
   2RE-1;+3;2RO-1;+5;2WA-1;+4;2WI-1;+4;2WE-1;+3;2WO-1;+6;2N-MU-MO-1;+1;0uk b jq WU;0pc b jq YI;3YE;3WU;
   @1B150 0uk b c WI;3WE;3WO;@1B164 0pc b c WI;3WE;3WO;3N;@1BC00 0DUPLOYAN b H;2X;2P;2T;2F;2K;2L;2B;2D;2V;2G;2R;
   2P N;2D S;2F N;2K M;2R S;2TH;2SLOAN DH;2DH;2KK;2SLOAN J;2HL;2LH;2RH;2M;2N;2J;2S;2M N;2N M;2J M;2S J;2M a r;
   2N a r;2J a r;4aw jv g j;2S a r;5n;2M S;2N S;2J S;2S S;2M N S;2N M S;2J M S;2S J S;2J S a r;3N;4S;2S T;4R;3P;4R;
   2T S;3R S;2W;2WH;2W R;2S N;3M;2K R S;2G R S;2S K;4R;2A;2SLOAN OW;2OA;2O;2AOU;2I;2E;2IE;2ec I;2UI;2EE;2SLOAN EH;
   2ROMANIAN I;2SLOAN EE;2bz I;2YE;2U;2EU;2XW;2U N;2bz U;2ROMANIAN U;2UH;2SLOAN U;2OOH;2OW;2OU;2WA;2WO;2WI;2WEI;
   2WOW;2NASAL U;3O;3I;3A;2PERNIN AN;3AM;2SLOAN EN;3AN;3ON;2dl M;@1BC70 1AFFIX k bd sl;2MID bd sl;2i bd sl;
   2bn af sl;2MID af sl;2cf af sl;2tx sl;3vy sl;3TANGENT;3dr;3E x;3I x;3TANGENT x;@1BC80 2cf bo;3TIGHT bo;3cr;
   3bz cr;3r;3av;3cj;3jj;3af;@1BC90 2bn bo;3TIGHT bo;3cr;3bz cr;3r;3av;3cj;3jj;3af;3h;@1BC9C 1f O a el;
   1THICK b SELECTOR;1p q;1eu CHINOOK eb cn;0SHORTHAND FORMAT b OVERLAP;2CONTINUING OVERLAP;2an STEP;2UP STEP;
   @1CF00 0ZNAMENNY fj q GORAZDO NIZKO S og ON k;3NIZKO S og ON k;3TSATA ON k;3GORAZDO NIZKO ON k;3NIZKO ON k;
   3SREDNE ON k;3MALO om ON k;3om ON k;3VYSOKO ON k;3MALO om S ur ON k;3om S ur ON k;3VYSOKO S ur ON k;
   3GORAZDO NIZKO S og ON i;3NIZKO S og ON i;3TSATA ON i;3GORAZDO NIZKO ON i;3NIZKO ON i;3SREDNE ON i;
   3MALO om ON i;3om ON i;3VYSOKO ON i;3MALO om S ur ON i;3om S ur ON i;3VYSOKO S ur ON i;3TSATA S og;
   3MALO om S og;3STRANNO MALO om;3om S og;4STRANNO;3VYSOKO S og;3MALO om STRANNO;3GORAZDO VYSOKO;3ZELO;3ON;3RAVNO;
   3TIKHAYA;3BORZAYA;3UDARKA;3PODVERTKA;3LOMKA;3KUPNAYA;3KACHKA;3ZEVOK;3SKOBA;3RAZSEKA;3KRYZH ON k;
   @1CF30 2TONAL RANGE q MRACHNO;5SVETLO;5TRESVETLO;2q ZADERZHKA;3DEMESTVENNY ZADERZHKA;3OTSECHKA;3PODCHASHIE;
   4a af y;3CHASHKA;4POLNAYA;3OBLACHKO;3SOROCHYA NOZHKA;3TOCHKA;3DVOETOCHIE;2ATTACHING af OMET;2q oy OMET;3KRYZH;
   2bk TONAL RANGE rv;1PRIZNAK gz LEVEL-2;+1;3DIRECTION FLIP;3KRYZH;3ROG;@1CF50 1NEUME KRYUK;3TIKHY;2PARAKLIT;
   2DVA V CHELNU;2KLYUCH;2ZANOZHEK;2STOPITSA;3S OCHKOM;2PEREVODKA;3wb;2STOPITSA a SOROCHYA NOZHKA;2CHELYUSTKA;
   2PALKA;2sx;2GOLUBCHIK BORZY;3TIKHY;3MRACHNY;3SVETLY;3TRESVETLY;2VRAKHIYA PROSTAYA;3MRACHNAYA;3sr;3yp;
   3tj PROSTAYA;4MRACHNAYA;4sr;4yp;2p sx;2ch CHELYUSTKA;2DERBITSA;2KHAMILO;2CHASHKA;2PODCHASHIE;
   2SKAMEYTSA MRACHNAYA;3sr;3yp;3TIKHAYA;2DEMESTVENNY KLYUCH;2SKAMEYTSA tj sr;3zs;3tj TIKHAYA;3yt PROSTAYA;4sr;4wb;
   4tj;2SLOZHITIE;3S vd;3ZAKRYTOE;3S og;2KRYZH;2ROG;2FITA;2KOBYLA;2ZMEYTSA;2STATYA;3S vd;4og;4vd I og;4og I vd;
   3ZAKRYTAYA;4S vd;3S ROGOM;4DVUMYA ZAPYATYMI;4vd I PODCHASHIEM;2POLKULIZMY;2STATYA wb;2STRELA PROSTAYA;
   3MRACHNOTIKHAYA;3KRYZHEVAYA;3POLUPOVODNAYA;3xw;3wb;3KLYUCHEPOVODNAYA;3zs;3TIKHAYA PUTNAYA;3yt;
   3DVOECHELNOKRYZHEVAYA;3zp;3yt tj;3zp tj;3GROMNAYA a cm sx;3xd a cm sx;3GROMNAYA;3xd;4a p sx;3GROMOKRYZHEVAYA;
   4xw;2MECHIK;3POVODNY;3KLYUCHEVOY;3KLYUCHEPOVODNY;3KLYUCHENEPOSTOYANNY;2STRELA TRYASOGLASNAYA;3TRYASOPOVODNAYA;
   3TRYASOSTRELNAYA;2OSOKA;3sr;3yp;3KRYUKOVAYA sr;3tj sr;4wb;2STRELA KRYUKOVAYA;4xw;4GROMNAYA a cm sx;4xd a cm sx;
   4GROMNAYA;4xd;5a p sx;4GROMOKRYZHEVAYA;5xw;4TRYASKA;2KUFISMA;2OBLAKO;2DUDA;2NEMKA;2PAUK"

end CommonExpr.Text.Name
