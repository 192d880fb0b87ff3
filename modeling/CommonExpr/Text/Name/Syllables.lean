/-! Names of the signs of East Asian and African syllabaries, and of presentation forms. -/

namespace CommonExpr.Text.Name

/-- The names from 3000 to FFFF, in the notation of the tables of names. -/
def syllables : String :=
  "@3000 0ma jf;1de;1eb cn;0DITTO q;0th INDUSTRIAL STANDARD z;0ma pw q;1CLOSING q;1cz bt;0k dw as;0i dw as;
   0k p dw as;0i p dw as;0k gn as;0i gn as;0k v gn as;0i v gn as;0k t qw as;0i t qw as;0POSTAL q;0GETA q;
   0k kq io as;0i kq io as;0k v qw as;0i v qw as;0k v kq io as;0i v kq io as;0k v au as;0i v au as;0jj ew;
   0ch p on ha q;0p on ha q;0bn p on ha q;0POSTAL q at;0HANGZHOU qc m;2l;2s;2w;2aa;2ag;2ao;2ah;2ar;0ma LEVEL cd q;
   1nr cd q;1DEPARTING cd q;1ENTERING cd q;0pu cm r cd q;1p r cd q;0WAVY ew;0af KANA REPEAT q;3a qj la q;3q bv ap;
   3a qj la q bv ap;3q bk ap;0ds POSTAL q;0ma TELEGRAPH cj FEED gv z;0HANGZHOU qc ca;2fd;2jg;0af ma pw q;0MASU q;
   0PART ALTERNATION q;0ma wn rv;1ap mv jf;@3041 0uk b c A;2A;2c I;2I;2c U;2U;2c E;2E;2c O;2O;2KA;2GA;2KI;2GI;2KU;
   2GU;2KE;2GE;2KO;2GO;2SA;2ZA;2SI;2ZI;2SU;2ZU;2SE;2ZE;2SO;2ZO;2TA;2DA;2TI;2DI;2c TU;2TU;2DU;2TE;2DE;2TO;2DO;2NA;
   2NI;2NU;2NE;2NO;2HA;2BA;2PA;2HI;2BI;2PI;2HU;2BU;2PU;2HE;2BE;2PE;2HO;2BO;2PO;2MA;2MI;2MU;2ME;2MO;2c YA;2YA;2c YU;
   2YU;2c YO;2YO;2RA;2RI;2RU;2RE;2RO;2c WA;2WA;2WI;2WE;2WO;2N;2VU;2c KA;3KE;@3099 0fj vv qj la q;2SEMI-VOICED la q;
   0vv qj la q;1SEMI-VOICED la q;0uk pw q;1qj pw q;1hl YORI;0vv p oe;0pc b c A;2A;2c I;2I;2c U;2U;2c E;2E;2c O;2O;
   2KA;2GA;2KI;2GI;2KU;2GU;2KE;2GE;2KO;2GO;2SA;2ZA;2SI;2ZI;2SU;2ZU;2SE;2ZE;2SO;2ZO;2TA;2DA;2TI;2DI;2c TU;2TU;2DU;
   2TE;2DE;2TO;2DO;2NA;2NI;2NU;2NE;2NO;2HA;2BA;2PA;2HI;2BI;2PI;2HU;2BU;2PU;2HE;2BE;2PE;2HO;2BO;2PO;2MA;2MI;2MU;2ME;
   2MO;2c YA;2YA;2c YU;2YU;2c YO;2YO;2RA;2RI;2RU;2RE;2RO;2c WA;2WA;2WI;2WE;2WO;2N;2VU;2c KA;3KE;2VA;2VI;2VE;2VO;
   1ae r;0vv PROLONGED la q;0pc pw q;1qj pw q;1hl KOTO;@3105 0BOPOMOFO b B;2P;2M;2F;2D;2T;2N;2L;2G;2K;2H;2J;2Q;2X;
   2ZH;2CH;2SH;2R;2Z;2C;2S;2A;2O;2E;2EH;2AI;2EI;2AU;2OU;2AN;2EN;2ANG;2ENG;2ER;2I;2U;2IU;2V;2NG;2GN;2IH;2O a r j;
   2NN;@3131 0pu b rx;2yl;2KIYEOK-SIOS;2NIEUN;2xq;2xr;2sv;2yn;2RIEUL;2xz;2ya;2yb;2yc;2zh;2zg;2xy;2MIEUM;2PIEUP;2ym;
   2xv;2SIOS;2SSANGSIOS;2IEUNG;2CIEUC;2yk;2rh;2rw;2ss;2sk;2HIEUH;2A;2AE;2YA;2YAE;2EO;2E;2YEO;2YE;2O;2WA;2WAE;2OE;
   2YO;2U;2WEO;2WE;2WI;2YU;2EU;2YI;2I;1qu;1b SSANGNIEUN;2zb;2NIEUN-SIOS;2NIEUN-PANSIOS;2zw;2zi;2zx;2RIEUL-PANSIOS;
   2zz;2MIEUM-PIEUP;2MIEUM-SIOS;2MIEUM-PANSIOS;2yx;2PIEUP-KIYEOK;2ze;2zu;2zd;2PIEUP-CIEUC;2PIEUP-THIEUTH;2yz;2zr;
   2SIOS-KIYEOK;2SIOS-NIEUN;2SIOS-TIKEUT;2SIOS-PIEUP;2SIOS-CIEUC;2PANSIOS;2SSANGIEUNG;2YESIEUNG;2YESIEUNG-SIOS;
   2YESIEUNG-PANSIOS;2yy;2SSANGHIEUH;2YEORINHIEUH;2YO-YA;2YO-YAE;2YO-I;2YU-YEO;2YU-YE;2YU-I;2ARAEA;2ARAEAE;
   @3190 0ma ANNOTATION LINKING q;2jc q;2m q;2l q;2s q;2w q;2fa q;2ae q;2gk q;2FIRST q;2SECOND q;2nw q;2FOURTH q;
   2HEAVEN q;2mu q;2MAN q;0BOPOMOFO b BU;2ZI;2JI;2GU;2EE;2ENN;2OO;2ONN;2IR;2ANN;2INN;2UNN;2IM;2NGG;2AINN;2AUNN;2AM;
   2OM;2ONG;2INNN;1o b P;3T;3K;3H;1b GH;2LH;2ZY;1o b G;1b GW;2KW;2OE;2AH;0CJK y T;2WG;2XG;2BXG;2SW;2HZZ;2HZG;2HP;
   2HZWG;2SZWG;2HZT;2HZZP;2HPWG;2HZW;2HZZZ;2N;2H;2S;2P;2SP;2D;2HZ;2HG;2SZ;2SWZ;2ST;2SG;2PD;2PZ;2TN;2SZZ;2SWG;2HXWG;
   2HZZZG;2PG;2Q;@31F0 0pc b c KU;3SI;3SU;3TO;3NU;3HA;3HI;3HU;3HE;3HO;3MU;3RA;3RI;3RU;3RE;3RO;0xt pu rx;2NIEUN;2sv;
   2RIEUL;2MIEUM;2PIEUP;2SIOS;2IEUNG;2CIEUC;2rh;2rw;2ss;2sk;2HIEUH;2rx A;2NIEUN A;2sv A;2RIEUL A;2MIEUM A;2PIEUP A;
   2SIOS A;2IEUNG A;2CIEUC A;2rh A;2rw A;2ss A;2sk A;2HIEUH A;2CIEUC U;1KOREAN lg OJEON;3O HU;@3220 1xi m;2l;2s;2w;
   2aa;2ag;2ao;2ah;2ar;2ca;2hz;2FIRE;2nx;2WOOD;2METAL;2mu;2SUN;2STOCK;2HAVE;2SOCIETY;2NAME;2SPECIAL;2FINANCIAL;
   2CONGRATULATION;2LABOR;2REPRESENT;2CALL;2STUDY;2SUPERVISE;2ENTERPRISE;2RESOURCE;2ALLIANCE;2FESTIVAL;2ko;2SELF;
   2REACH;0ds xi hj;2KINDERGARTEN;2SCHOOL;2KOTO;1cz ca ON t au;2fd ON t au;2jg ON t au;2ke ON t au;2gh ON t au;
   2ky ON t au;2gc ON t au;2lx ON t au;0PARTNERSHIP f;0ds cz fd m;3l;3s;3w;3aa;3ag;3ao;3ah;3ar;2jg;3m;3l;3s;3w;3aa;
   1pu rx;2NIEUN;2sv;2RIEUL;2MIEUM;2PIEUP;2SIOS;2IEUNG;2CIEUC;2rh;2rw;2ss;2sk;2HIEUH;2rx A;2NIEUN A;2sv A;2RIEUL A;
   2MIEUM A;2PIEUP A;2SIOS A;2IEUNG A;2CIEUC A;2rh A;2rw A;2ss A;2sk A;2HIEUH A;1KOREAN lg CHAMKO;3JUEUI;
   1pu IEUNG U;0KOREAN STANDARD z;0ds xi m;2l;2s;2w;2aa;2ag;2ao;2ah;2ar;2ca;2hz;2FIRE;2nx;2WOOD;2METAL;2mu;2SUN;
   2STOCK;2HAVE;2SOCIETY;2NAME;2SPECIAL;2FINANCIAL;2CONGRATULATION;2LABOR;2SECRET;2MALE;2FEMALE;2SUITABLE;
   2EXCELLENT;2PRINT;2ATTENTION;2ITEM;2ko;2COPY;2CORRECT;2cf;2dm;2bn;2k;2i;2MEDICINE;2RELIGION;2STUDY;2SUPERVISE;
   2ENTERPRISE;2RESOURCE;2ALLIANCE;2NIGHT;1cz jg ag;3ao;3ah;3ar;2ke;3m;3l;3s;3w;3aa;3ag;3ao;3ah;3ar;2gh;
   0ma TELEGRAPH z fk JANUARY;4FEBRUARY;4MARCH;4APRIL;4MAY;4JUNE;4JULY;4AUGUST;4SEPTEMBER;4OCTOBER;4NOVEMBER;
   4DECEMBER;0au HG;1ERG;1EV;0LIMITED LIABILITY f;0ds pc A;2I;2U;2E;2O;2KA;2KI;2KU;2KE;2KO;2SA;2SI;2SU;2SE;2SO;2TA;
   2TI;2TU;2TE;2TO;2NA;2NI;2NU;2NE;2NO;2HA;2HI;2HU;2HE;2HO;2MA;2MI;2MU;2ME;2MO;2YA;2YU;2YO;2RA;2RI;2RU;2RE;2RO;2WA;
   2WI;2WE;2WO;0au ERA NAME REIWA;1APAATO;1ARUHUA;1ANPEA;1AARU;1ININGU;1INTI;1UON;1ESUKUUDO;1EEKAA;1ONSU;1OOMU;
   1KAIRI;1KARATTO;1KARORII;1GARON;1GANMA;1GIGA;1GINII;1KYURII;1GIRUDAA;1KIRO;1KIROGURAMU;1KIROMEETORU;1KIROWATTO;
   1GURAMU;1GURAMUTON;1KURUZEIRO;1KUROONE;1KEESU;1KORUNA;1KOOPO;1SAIKURU;1SANTIIMU;1SIRINGU;1SENTI;1SENTO;1DAASU;
   1DESI;1DORU;1TON;1NANO;1NOTTO;1HAITU;1PAASENTO;1PAATU;1BAARERU;1PIASUTORU;1PIKURU;1PIKO;1BIRU;1HUARADDO;1HUIITO;
   1BUSSYERU;1HURAN;1HEKUTAARU;1PESO;1PENIHI;1HERUTU;1PENSU;1PEEZI;1BEETA;1POINTO;1BORUTO;1HON;1PONDO;1HOORU;1HOON;
   1MAIKURO;1MAIRU;1MAHHA;1MARUKU;1MANSYON;1MIKURON;1MIRI;1MIRIBAARU;1MEGA;1MEGATON;1MEETORU;1YAADO;1YAARU;1YUAN;
   1RITTORU;1RIRA;1RUPII;1RUUBURU;1REMU;1RENTOGEN;1WATTO;0ma TELEGRAPH z fk HOUR bt;5m;5l;5s;5w;5aa;5ag;5ao;5ah;
   5ar;5ca;5ob;5na;5st;5rt;5pa;5qg;5sm;5qs;5sd;5fd;5TWENTY-ONE;5TWENTY-TWO;5TWENTY-THREE;5TWENTY-FOUR;0au HPA;1DA;
   1AU;1ak;1OV;1PC;1DM;2ga;2CUBED;1IU;1ERA NAME HEISEI;3SYOUWA;3TAISYOU;3MEIZI;1CORPORATION;1PA AMPS;1NA;1MU A;1MA;
   1KA;1KB;1MB;1GB;1CAL;1KCAL;1PF;1NF;1MU F;2G;1MG;1KG;1HZ;1KHZ;1MHZ;1GHZ;1THZ;1MU L;1ML;1DL;1KL;1FM;1NM;1MU M;1MM;
   1CM;1KM;1MM ga;1CM ga;1M ga;1KM ga;1MM CUBED;1CM CUBED;1M CUBED;1KM CUBED;1M ay S;4ga;1PA;1KPA;1MPA;1GPA;1RAD;
   2ay S;4ga;1PS;1NS;1MU S;1MS;1PV;1NV;1MU V;1MV;1KV;1MV MEGA;1PW;1NW;1MU W;1MW;1KW;1MW MEGA;1K OHM;1M OHM;1AM;1BQ;
   1CC;1CD;1C ay KG;1CO;1DB;1GY;1HA;1HP;1IN;1KK;1KM e;1KT;1LM;1LN;1LOG;1LX;1MB c;1MIL;1MOL;1PH;1PM;1PPM;1PR;1SR;
   1SV;1WB;1V ay M;1A ay M;0ma TELEGRAPH z fk DAY m;5l;5s;5w;5aa;5ag;5ao;5ah;5ar;5ca;5ob;5na;5st;5rt;5pa;5qg;5sm;
   5qs;5sd;5fd;5TWENTY-ONE;5TWENTY-TWO;5TWENTY-THREE;5TWENTY-FOUR;5yq;5TWENTY-SIX;5TWENTY-SEVEN;5TWENTY-EIGHT;
   5TWENTY-NINE;5jg;5THIRTY-ONE;0au GAL;@4DC0 0HEXAGRAM fk fp CREATIVE HEAVEN;3RECEPTIVE mu;
   2DIFFICULTY AT fp BEGINNING;2YOUTHFUL FOLLY;2WAITING;2CONFLICT;2fp ARMY;2ul TOGETHER;2c TAMING;2TREADING;2PEACE;
   2STANDSTILL;2FELLOWSHIP;2GREAT POSSESSION;2MODESTY;2ENTHUSIASM;2FOLLOWING;2WORK ON fp DECAYED;2APPROACH;
   2CONTEMPLATION;2BITING mz;2GRACE;2SPLITTING APART;2RETURN;2INNOCENCE;2GREAT TAMING;2jl ua;2GREAT PREPONDERANCE;
   2fp ABYSMAL nx;3CLINGING FIRE;2INFLUENCE;2DURATION;2RETREAT;2GREAT POWER;2PROGRESS;2DARKENING OF fp be;
   2fp FAMILY;2OPPOSITION;2OBSTRUCTION;2DELIVERANCE;2DECREASE;2INCREASE;2BREAKTHROUGH;2COMING TO MEET;
   2GATHERING TOGETHER;2PUSHING UPWARD;2OPPRESSION;2fp WELL;2REVOLUTION;2fp CAULDRON;3AROUSING THUNDER;
   3KEEPING STILL sb;2DEVELOPMENT;2fp MARRYING MAIDEN;2ABUNDANCE;2fp WANDERER;3GENTLE WIND;3JOYOUS LAKE;
   2DISPERSION;2LIMITATION;2INNER TRUTH;2c PREPONDERANCE;2AFTER COMPLETION;2BEFORE COMPLETION;@A000 0YI lb IT;2IX;
   2I;2IP;2IET;2IEX;2IE;2IEP;2AT;2AX;2A;2AP;2UOX;2UO;2UOP;2OT;2OX;2O;2OP;2EX;2E;2WU;2BIT;2BIX;2BI;2BIP;2BIET;2BIEX;
   2BIE;2BIEP;2BAT;2BAX;2BA;2BAP;2BUOX;2BUO;2BUOP;2BOT;2BOX;2BO;2BOP;2BEX;2BE;2BEP;2BUT;2BUX;2BU;2BUP;2BURX;2BUR;
   2BYT;2BYX;2BY;2BYP;2BYRX;2BYR;2PIT;2PIX;2PI;2PIP;2PIEX;2PIE;2PIEP;2PAT;2PAX;2PA;2PAP;2PUOX;2PUO;2PUOP;2POT;2POX;
   2PO;2POP;2PUT;2PUX;2PU;2PUP;2PURX;2PUR;2PYT;2PYX;2PY;2PYP;2PYRX;2PYR;2BBIT;2BBIX;2BBI;2BBIP;2BBIET;2BBIEX;2BBIE;
   2BBIEP;2BBAT;2BBAX;2BBA;2BBAP;2BBUOX;2BBUO;2BBUOP;2BBOT;2BBOX;2BBO;2BBOP;2BBEX;2BBE;2BBEP;2BBUT;2BBUX;2BBU;
   2BBUP;2BBURX;2BBUR;2BBYT;2BBYX;2BBY;2BBYP;2NBIT;2NBIX;2NBI;2NBIP;2NBIEX;2NBIE;2NBIEP;2NBAT;2NBAX;2NBA;2NBAP;
   2NBOT;2NBOX;2NBO;2NBOP;2NBUT;2NBUX;2NBU;2NBUP;2NBURX;2NBUR;2NBYT;2NBYX;2NBY;2NBYP;2NBYRX;2NBYR;2HMIT;2HMIX;2HMI;
   2HMIP;2HMIEX;2HMIE;2HMIEP;2HMAT;2HMAX;2HMA;2HMAP;2HMUOX;2HMUO;2HMUOP;2HMOT;2HMOX;2HMO;2HMOP;2HMUT;2HMUX;2HMU;
   2HMUP;2HMURX;2HMUR;2HMYX;2HMY;2HMYP;2HMYRX;2HMYR;2MIT;2MIX;2MI;2MIP;2MIEX;2MIE;2MIEP;2MAT;2MAX;2MA;2MAP;2MUOT;
   2MUOX;2MUO;2MUOP;2MOT;2MOX;2MO;2MOP;2MEX;2ME;2MUT;2MUX;2MU;2MUP;2MURX;2MUR;2MYT;2MYX;2MY;2MYP;2FIT;2FIX;2FI;
   2FIP;2FAT;2FAX;2FA;2FAP;2FOX;2FO;2FOP;2FUT;2FUX;2FU;2FUP;2FURX;2FUR;2FYT;2FYX;2FY;2FYP;2VIT;2VIX;2VI;2VIP;2VIET;
   2VIEX;2VIE;2VIEP;2VAT;2VAX;2VA;2VAP;2VOT;2VOX;2VO;2VOP;2VEX;2VEP;2VUT;2VUX;2VU;2VUP;2VURX;2VUR;2VYT;2VYX;2VY;
   2VYP;2VYRX;2VYR;2DIT;2DIX;2DI;2DIP;2DIEX;2DIE;2DIEP;2DAT;2DAX;2DA;2DAP;2DUOX;2DUO;2r;2DOX;2DO;2DOP;2DEX;2DE;
   2DEP;2DUT;2DUX;2DU;2DUP;2DURX;2DUR;2TIT;2TIX;2TI;2TIP;2TIEX;2TIE;2TIEP;2TAT;2TAX;2TA;2TAP;2TUOT;2TUOX;2TUO;
   2TUOP;2TOT;2TOX;2TO;2fa;2TEX;2TE;2TEP;2TUT;2TUX;2TU;2TUP;2TURX;2TUR;2DDIT;2DDIX;2DDI;2DDIP;2DDIEX;2DDIE;2DDIEP;
   2DDAT;2DDAX;2ef;2DDAP;2DDUOX;2DDUO;2DDUOP;2DDOT;2DDOX;2DDO;2DDOP;2DDEX;2DDE;2DDEP;2DDUT;2DDUX;2DDU;2DDUP;2DDURX;
   2DDUR;2NDIT;2NDIX;2NDI;2NDIP;2NDIEX;2NDIE;2NDAT;2NDAX;2NDA;2NDAP;2NDOT;2NDOX;2NDO;2NDOP;2NDEX;2NDE;2NDEP;2NDUT;
   2NDUX;2NDU;2NDUP;2NDURX;2NDUR;2HNIT;2HNIX;2HNI;2HNIP;2HNIET;2HNIEX;2HNIE;2HNIEP;2HNAT;2HNAX;2HNA;2HNAP;2HNUOX;
   2HNUO;2HNOT;2HNOX;2HNOP;2HNEX;2HNE;2HNEP;2HNUT;2NIT;2NIX;2NI;2NIP;2NIEX;2NIE;2NIEP;2NAX;2NA;2NAP;2NUOX;2NUO;
   2NUOP;2di;2NOX;2NO;2NOP;2NEX;2NE;2NEP;2NUT;2NUX;2NU;2NUP;2NURX;2NUR;2HLIT;2HLIX;2HLI;2HLIP;2HLIEX;2HLIE;2HLIEP;
   2HLAT;2HLAX;2HLA;2HLAP;2HLUOX;2HLUO;2HLUOP;2HLOX;2HLO;2HLOP;2HLEX;2HLE;2HLEP;2HLUT;2HLUX;2HLU;2HLUP;2HLURX;
   2HLUR;2HLYT;2HLYX;2HLY;2HLYP;2HLYRX;2HLYR;2LIT;2LIX;2LI;2LIP;2LIET;2LIEX;2LIE;2LIEP;2LAT;2LAX;2LA;2LAP;2LUOT;
   2LUOX;2LUO;2LUOP;2LOT;2LOX;2LO;2LOP;2LEX;2LE;2LEP;2LUT;2LUX;2LU;2LUP;2LURX;2LUR;2LYT;2LYX;2LY;2LYP;2LYRX;2LYR;
   2GIT;2GIX;2GI;2GIP;2GIET;2GIEX;2GIE;2GIEP;2GAT;2GAX;2GA;2GAP;2GUOT;2GUOX;2GUO;2GUOP;2GOT;2GOX;2GO;2GOP;2GET;
   2GEX;2GE;2GEP;2GUT;2GUX;2GU;2GUP;2GURX;2GUR;2KIT;2KIX;2KI;2KIP;2KIEX;2KIE;2KIEP;2KAT;2KAX;2KA;2KAP;2KUOX;2KUO;
   2KUOP;2KOT;2KOX;2KO;2KOP;2KET;2KEX;2KE;2KEP;2KUT;2KUX;2KU;2KUP;2KURX;2KUR;2GGIT;2GGIX;2GGI;2GGIEX;2GGIE;2GGIEP;
   2GGAT;2GGAX;2GGA;2GGAP;2GGUOT;2GGUOX;2GGUO;2GGUOP;2GGOT;2GGOX;2GGO;2GGOP;2GGET;2GGEX;2GGE;2GGEP;2GGUT;2GGUX;
   2GGU;2GGUP;2GGURX;2GGUR;2MGIEX;2MGIE;2MGAT;2MGAX;2MGA;2MGAP;2MGUOX;2MGUO;2MGUOP;2MGOT;2MGOX;2MGO;2MGOP;2MGEX;
   2MGE;2MGEP;2MGUT;2MGUX;2MGU;2MGUP;2MGURX;2MGUR;2HXIT;2HXIX;2HXI;2HXIP;2HXIET;2HXIEX;2HXIE;2HXIEP;2HXAT;2HXAX;
   2HXA;2HXAP;2HXUOT;2HXUOX;2HXUO;2HXUOP;2HXOT;2HXOX;2HXO;2HXOP;2HXEX;2HXE;2HXEP;2NGIEX;2NGIE;2NGIEP;2NGAT;2NGAX;
   2ck;2NGAP;2NGUOT;2NGUOX;2NGUO;2NGOT;2NGOX;2NGO;2NGOP;2NGEX;2NGE;2NGEP;2HIT;2HIEX;2HIE;2HAT;2HAX;2HA;2HAP;2HUOT;
   2HUOX;2HUO;2HUOP;2HOT;2HOX;2HO;2HOP;2HEX;2HE;2HEP;2WAT;2WAX;2WA;2WAP;2WUOX;2WUO;2WUOP;2WOX;2WO;2WOP;2WEX;2WE;
   2WEP;2ZIT;2ZIX;2ZI;2ZIP;2ZIEX;2ZIE;2ZIEP;2ZAT;2ZAX;2ZA;2ZAP;2ZUOX;2ZUO;2ZUOP;2ZOT;2ZOX;2ZO;2ZOP;2ZEX;2ZE;2ZEP;
   2ZUT;2ZUX;2ZU;2ZUP;2ZURX;2ZUR;2ZYT;2ZYX;2ZY;2ZYP;2ZYRX;2ZYR;2CIT;2CIX;2CI;2CIP;2CIET;2CIEX;2CIE;2CIEP;2CAT;2CAX;
   2CA;2CAP;2CUOX;2CUO;2CUOP;2COT;2COX;2CO;2COP;2CEX;2CE;2CEP;2CUT;2CUX;2CU;2CUP;2CURX;2CUR;2CYT;2CYX;2CY;2CYP;
   2CYRX;2CYR;2ZZIT;2ZZIX;2ZZI;2ZZIP;2ZZIET;2ZZIEX;2ZZIE;2ZZIEP;2ZZAT;2ZZAX;2ZZA;2ZZAP;2ZZOX;2ZZO;2ZZOP;2ZZEX;2ZZE;
   2ZZEP;2ZZUX;2ZZU;2ZZUP;2ZZURX;2ZZUR;2ZZYT;2ZZYX;2ZZY;2ZZYP;2ZZYRX;2ZZYR;2NZIT;2NZIX;2NZI;2NZIP;2NZIEX;2NZIE;
   2NZIEP;2NZAT;2NZAX;2NZA;2NZAP;2NZUOX;2NZUO;2NZOX;2NZOP;2NZEX;2NZE;2NZUX;2NZU;2NZUP;2NZURX;2NZUR;2NZYT;2NZYX;
   2NZY;2NZYP;2NZYRX;2NZYR;2SIT;2ag;2SI;2SIP;2SIEX;2SIE;2SIEP;2SAT;2SAX;2SA;2SAP;2SUOX;2SUO;2SUOP;2SOT;2SOX;2SO;
   2SOP;2SEX;2SE;2SEP;2SUT;2SUX;2SU;2SUP;2SURX;2SUR;2SYT;2SYX;2SY;2SYP;2SYRX;2SYR;2SSIT;2SSIX;2SSI;2SSIP;2SSIEX;
   2SSIE;2SSIEP;2SSAT;2SSAX;2fc;2SSAP;2SSOT;2SSOX;2SSO;2SSOP;2SSEX;2SSE;2SSEP;2SSUT;2SSUX;2SSU;2SSUP;2SSYT;2SSYX;
   2SSY;2SSYP;2SSYRX;2SSYR;2ZHAT;2ZHAX;2ZHA;2ZHAP;2ZHUOX;2ZHUO;2ZHUOP;2ZHOT;2ZHOX;2ZHO;2ZHOP;2ZHET;2ZHEX;2ZHE;
   2ZHEP;2ZHUT;2ZHUX;2ZHU;2ZHUP;2ZHURX;2ZHUR;2ZHYT;2ZHYX;2ZHY;2ZHYP;2ZHYRX;2ZHYR;2CHAT;2CHAX;2cs;2CHAP;2CHUOT;
   2CHUOX;2CHUO;2CHUOP;2CHOT;2CHOX;2CHO;2CHOP;2CHET;2CHEX;2CHE;2CHEP;2CHUX;2CHU;2CHUP;2CHURX;2CHUR;2CHYT;2CHYX;
   2CHY;2CHYP;2CHYRX;2CHYR;2RRAX;2RRA;2RRUOX;2RRUO;2RROT;2RROX;2RRO;2RROP;2RRET;2RREX;2RRE;2RREP;2RRUT;2RRUX;2RRU;
   2RRUP;2RRURX;2RRUR;2RRYT;2RRYX;2RRY;2RRYP;2RRYRX;2RRYR;2NRAT;2NRAX;2NRA;2NRAP;2NROX;2NRO;2NROP;2NRET;2NREX;2NRE;
   2NREP;2NRUT;2NRUX;2NRU;2NRUP;2NRURX;2NRUR;2NRYT;2NRYX;2NRY;2NRYP;2NRYRX;2NRYR;2SHAT;2SHAX;2cl;2SHAP;2SHUOX;
   2SHUO;2SHUOP;2SHOT;2SHOX;2SHO;2SHOP;2SHET;2SHEX;2gd;2SHEP;2SHUT;2SHUX;2SHU;2SHUP;2SHURX;2SHUR;2SHYT;2SHYX;2SHY;
   2SHYP;2SHYRX;2SHYR;2RAT;2RAX;2RA;2RAP;2RUOX;2RUO;2RUOP;2ROT;2ROX;2RO;2ROP;2REX;2RE;2REP;2RUT;2RUX;2RU;2RUP;
   2RURX;2RUR;2RYT;2RYX;2RY;2RYP;2RYRX;2RYR;2JIT;2JIX;2JI;2JIP;2JIET;2JIEX;2JIE;2JIEP;2JUOT;2JUOX;2JUO;2JUOP;2JOT;
   2JOX;2JO;2JOP;2JUT;2JUX;2JU;2JUP;2JURX;2JUR;2JYT;2JYX;2JY;2JYP;2JYRX;2JYR;2QIT;2QIX;2QI;2QIP;2QIET;2QIEX;2QIE;
   2QIEP;2QUOT;2QUOX;2QUO;2QUOP;2QOT;2QOX;2QO;2QOP;2QUT;2QUX;2QU;2QUP;2QURX;2QUR;2QYT;2QYX;2QY;2QYP;2QYRX;2QYR;
   2JJIT;2JJIX;2JJI;2JJIP;2JJIET;2JJIEX;2JJIE;2JJIEP;2JJUOX;2JJUO;2JJUOP;2JJOT;2JJOX;2JJO;2JJOP;2JJUT;2JJUX;2JJU;
   2JJUP;2JJURX;2JJUR;2JJYT;2JJYX;2JJY;2JJYP;2NJIT;2NJIX;2NJI;2NJIP;2NJIET;2NJIEX;2NJIE;2NJIEP;2NJUOX;2NJUO;2NJOT;
   2NJOX;2NJO;2NJOP;2NJUX;2NJU;2NJUP;2NJURX;2NJUR;2NJYT;2NJYX;2NJY;2NJYP;2NJYRX;2NJYR;2NYIT;2NYIX;2NYI;2NYIP;
   2NYIET;2NYIEX;2NYIE;2NYIEP;2NYUOX;2NYUO;2NYUOP;2NYOT;2NYOX;2NYO;2NYOP;2NYUT;2NYUX;2NYU;2NYUP;2XIT;2XIX;2XI;2XIP;
   2XIET;2XIEX;2XIE;2XIEP;2XUOX;2XUO;2XOT;2XOX;2XO;2XOP;2XYT;2XYX;2XY;2XYP;2XYRX;2XYR;2YIT;2YIX;2YI;2YIP;2YIET;
   2YIEX;2YIE;2YIEP;2YUOT;2YUOX;2YUO;2YUOP;2YOT;2YOX;2YO;2YOP;2YUT;2YUX;2YU;2YUP;2YURX;2YUR;2YYT;2YYX;2YY;2YYP;
   2YYRX;2YYR;@A490 1RADICAL QOT;2LI;2KIT;2NYIP;2CYP;2SSI;2GGOP;2GEP;2MI;2HXIT;2LYR;2BBUT;2MOP;2YO;2PUT;2HXUO;2TAT;
   2GA;2ZUP;2CYT;2DDUR;2BUR;2GGUO;2NYOP;2TU;2OP;2JJUT;2ZOT;2PYT;2HMO;2YIT;2VUR;2SHY;2VEP;2ZA;2JO;2NZUP;2JJY;2GOT;
   2JJIE;2WO;2DU;2SHUR;2LIE;2CY;2CUOP;2CIP;2HXOP;2SHAT;2ZUR;2SHOP;2CHE;2ZZIET;2NBIE;2KE;@A4D0 0LISU b BA;2PA;2dq;
   2DA;2TA;2df;2GA;2KA;2cw;2JA;2CA;2cs;2DZA;2hc;2mk;2MA;2NA;2LA;2SA;2ZHA;2ZA;2ck;2HA;2XA;2HHA;2FA;2WA;2cl;2YA;2eg;
   2A;2AE;2E;2EU;2I;2O;2U;2UE;2UH;2OE;2cd MYA TI;3NA PO;3MYA CYA;4BO;4NA;4JEU;1eu de;2eb cn;0VAI lb EE;2EEN;2HEE;
   2WEE;2WEEN;2PEE;2BHEE;2BEE;2MBEE;2KPEE;2MGBEE;2GBEE;2FEE;2VEE;2TEE;2THEE;2DHEE;2DHHEE;2LEE;2REE;2DEE;2NDEE;2SEE;
   2SHEE;2ZEE;2ZHEE;2CEE;2JEE;2NJEE;2YEE;2KEE;2NGGEE;2GEE;2MEE;2NEE;2NYEE;2I;2IN;2HI;2HIN;2WI;2WIN;2PI;2BHI;2BI;
   2MBI;2KPI;2MGBI;2GBI;2FI;2VI;2TI;2THI;2DHI;2DHHI;2LI;2RI;2DI;2NDI;2SI;2SHI;2ZI;2ZHI;2CI;2JI;2NJI;2YI;2KI;2NGGI;
   2GI;2MI;2NI;2NYI;2A;2AN;2NGAN;2HA;2HAN;2WA;2WAN;2PA;2er;2BA;2MBA;2KPA;2KPAN;2MGBA;2GBA;2FA;2VA;2TA;2df;2eh;
   2DHHA;2LA;2RA;2DA;2NDA;2SA;2cl;2ZA;2ZHA;2CA;2JA;2NJA;2YA;2KA;2KAN;2NGGA;2GA;2MA;2NA;2cu;2OO;2OON;2HOO;2WOO;
   2WOON;2POO;2BHOO;2BOO;2MBOO;2KPOO;2MGBOO;2GBOO;2FOO;2VOO;2TOO;2THOO;2DHOO;2DHHOO;2LOO;2ROO;2DOO;2NDOO;2SOO;
   2SHOO;2ZOO;2ZHOO;2COO;2JOO;2NJOO;2YOO;2KOO;2NGGOO;2GOO;2MOO;2NOO;2NYOO;2U;2UN;2HU;2HUN;2WU;2WUN;2PU;2BHU;2BU;
   2MBU;2KPU;2MGBU;2GBU;2FU;2VU;2TU;2THU;2DHU;2DHHU;2LU;2RU;2DU;2NDU;2SU;2SHU;2ZU;2ZHU;2CU;2JU;2NJU;2YU;2KU;2NGGU;
   2GU;2MU;2NU;2NYU;2O;2ON;2NGON;2HO;2HON;2WO;2WON;2PO;2BHO;2BO;2MBO;2KPO;2MGBO;2GBO;2GBON;2FO;2VO;2TO;2THO;2DHO;
   2DHHO;2LO;2RO;2DO;2NDO;2SO;2SHO;2ZO;2ZHO;2CO;2JO;2NJO;2YO;2KO;2NGGO;2GO;2MO;2NO;2NYO;2E;2EN;2NGEN;2HE;2HEN;2WE;
   2WEN;2PE;2BHE;2BE;2MBE;2KPE;2KPEN;2MGBE;2GBE;2GBEN;2FE;2VE;2TE;2fp;2DHE;2DHHE;2LE;2RE;2DE;2NDE;2SE;2gd;2ZE;2ZHE;
   2CE;2JE;2NJE;2YE;2KE;2NGGE;2NGGEN;2GE;2GEN;2ME;2NE;2NYE;2NG;2xm;1de;1eb cn;1hj q;1lb NDOLE FA;3KA;3SOO;1z FEENG;
   2KEENG;2TING;2NII;2BANG;2FAA;2TAA;2DANG;2DOONG;2KUNG;2TONG;2DO-O;2JONG;1bh bt;2m;2l;2s;2w;2aa;2ag;2ao;2ah;2ar;
   1lb NDOLE MA;3DO;@A640 0mq e b ZEMLYA;1c b ZEMLYA;1e b DZELO;1c b DZELO;1e b ch DZE;1c b ch DZE;1e b gt;1c b gt;
   1e b DJERV;1c b DJERV;1e b MONOGRAPH UK;1c b MONOGRAPH UK;1e b BROAD fo;1c b BROAD fo;1e b jb YER;1c b jb YER;
   1e b YERU a BACK YER;1c b YERU a BACK YER;1e b lk YAT;1c b lk YAT;1e b ch YU;1c b ch YU;1e b lk A;1c b lk A;
   1e b fx dp hk;1c b fx dp hk;1e b BLENDED hk;1c b BLENDED hk;1e b lk fx dp hk;1c b lk fx dp hk;1e b YN;1c b YN;
   1e b ch TSE;1c b ch TSE;1e b SOFT DE;1c b SOFT DE;1e b SOFT EL;1c b SOFT EL;1e b SOFT EM;1c b SOFT EM;1e b xp O;
   1c b xp O;1e b BINOCULAR O;1c b BINOCULAR O;1e b p xp O;1c b p xp O;1b MULTIOCULAR O;0fj mq VZMET;2ca tk f;
   2aq tk f;2az tk f;0SLAVONIC ek;0fj mq b UKRAINIAN IE;3I;3YI;3U;3HARD f;3YERU;3SOFT f;3fo;2KAVYKA;2PAYEROK;
   0mq KAVYKA;1PAYEROK;1e b DWE;1c b DWE;1e b DZWE;1c b DZWE;1e b ZHWE;1c b ZHWE;1e b CCHE;1c b CCHE;1e b DZZE;
   1c b DZZE;1e b TE a ae x;1c b TE a ae x;1e b TWE;1c b TWE;1e b TSWE;1c b TSWE;1e b TSSE;1c b TSSE;1e b TCHE;
   1c b TCHE;1e b HWE;1c b HWE;1e b SHWE;1c b SHWE;1e b p O;1c b p O;1e b nf O;1c b nf O;0gz b mq HARD f;3SOFT f;
   0fj mq b EF;3lk E;0BAMUM b A;2KA;2U;2KU;2EE;2REE;2TAE;2O;2NYI;2I;2LA;2PA;2RII;2RIEE;2LEEEE;2MEEEE;2TAA;2NDAA;
   2NJAEM;2M;2SUU;2MU;2SHII;2SI;2SHEUX;2SEUX;2KYEE;2KET;2NUAE;2NU;2NJUAE;2YOQ;2SHU;2YUQ;2YA;2NSHA;2KEUX;2PEUX;
   2NJEE;2NTEE;2PUE;2WUE;2PEE;2FEE;2RU;2LU;2MI;2NI;2REUX;2RAE;2KEN;2NGKWAEN;2NGGA;2ck;2SHO;2PUAE;2FU;2FOM;2WA;2NA;
   2LI;2PI;2LOQ;2KO;2MBEN;2REN;2MEN;2MA;2TI;2KI;2MO;2MBAA;2TET;2KPA;2ca;2NTUU;2SAMBA;2FAAMAE;2KOVUU;2KOGHOM;
   1fj q KOQNDON;3TUKWENTIS;1NJAEMLI;1eb cn;1gm;1de;1oq;1hj q;@A700 0gz b CHINESE cd YIN PING;4YANG PING;
   4YIN SHANG;4YANG SHANG;4YIN QU;4YANG QU;4YIN RU;4YANG RU;2wz fm cd ak;2cf fm cd ak;2MID fm cd ak;2bn fm cd ak;
   2xa fm cd ak;2wz fm px cd ak;2cf fm px cd ak;2MID fm px cd ak;2bn fm px cd ak;2xa fm px cd ak;2wz px cd ak;
   2cf px cd ak;2MID px cd ak;2bn px cd ak;2xa px cd ak;2r af ak;3ls;3bd ak;2bk i gn dw;2ia UP h;3an h;3hy q;
   3cv hy q;2bn cv hy q;2STRESS g cf cd;4bn cd;0dz e b wx ba;1c b wx ba;1e b wx gf;1c b wx gf;1e b HENG;1c b HENG;
   1e b TZ;1c b TZ;1e b TRESILLO;1c b TRESILLO;1e b wv;1c b wv;1e b wv a de;1c b wv a de;1b c e F;4S;1e b AA;
   1c b AA;1e b AO;1c b AO;1e b AU;1c b AU;1e b AV;1c b AV;1e b AV a bd ak;1c b AV a bd ak;1e b AY;1c b AY;
   1e b ch C a r;1c b ch C a r;1e b K a y;1c b K a y;1e b K a ep y;1c b K a ep y;1e b K a y g ep y;
   1c b K a y g ep y;1e b BROKEN L;1c b BROKEN L;1e b L a cf y;1c b L a cf y;1e b O a bz y iw;1c b O a bz y iw;
   1e b O a kl;1c b O a kl;1e b OO;1c b OO;1e b P a y mz fg;1c b P a y mz fg;1e b P a vn;1c b P a vn;
   1e b P a SQUIRREL dr;1c b P a SQUIRREL dr;1e b Q a y mz fg;1c b Q a y mz fg;1e b Q a ep y;1c b Q a ep y;
   1e b R ROTUNDA;1c b R ROTUNDA;1e b RUM ROTUNDA;1c b RUM ROTUNDA;1e b V a ep y;1c b V a ep y;1e b VY;1c b VY;
   1e b VISIGOTHIC Z;1c b VISIGOTHIC Z;1e b THORN a y;1c b THORN a y;1e b THORN a y mz fg;1c b THORN a y mz fg;
   1e b VEND;1c b VEND;1e b ET;1c b ET;1e b IS;1c b IS;1e b CON;1c b CON;0gz b US;0dz c b DUM;3LUM;3MUM;3NUM;3RUM;
   1b c e RUM;1c b TUM;3UM;1e b ki D;1c b ki D;1e b ki F;1c b ki F;1e b ki G;3by ki G;1c b by ki G;1e b by L;
   1c b by L;1e b ki R;1c b ki R;1e b ki S;1c b ki S;1e b ki T;1c b ki T;0gz b bn cb fi;2gm;2ec fy f;
   0dz e b SALTILLO;1c b SALTILLO;1e b by H;1c b L a ey x g BELT;1b SINOLOGICAL r;1e b N a fg;1c b N a fg;
   1e b C a ak;1c b C a ak;5hi x;3H a hi x;1e b B a vn;1c b B a vn;1e b F a y;1c b F a y;1e b vc AE;1c b vc AE;
   1e b vc OE;1c b vc OE;1e b vc UE;1c b vc UE;1e b G a me y;1c b G a me y;1e b K a me y;1c b K a me y;
   1e b N a me y;1c b N a me y;1e b R a me y;1c b R a me y;1e b S a me y;1c b S a me y;1e b H a x;3ch bw E;3im G;
   3L a BELT;3c e I;1b c e Q;1e b by K;4T;3J a qq;3CHI;3js;1c b js;1e b fo;1c b fo;1e b U a y;1c b U a y;1e b hm A;
   1c b hm A;1e b hm I;1c b hm I;1e b hm U;1c b hm U;1e b du POLISH O;1c b du POLISH O;1e b ANGLICANA W;
   1c b ANGLICANA W;1e b C a hi x;3S a x;3Z a hi x;3D a ec y iw;1c b D a ec y iw;1e b S a ec y iw;1c b S a ec y iw;
   @A7D0 1e b fx ki G;1c b fx ki G;@A7D3 3p THORN;@A7D5 4WYNN;1e b ae SCOTS S;1c b ae SCOTS S;1e b SIGMOID S;
   1c b SIGMOID S;@A7F2 0gz b e C;3F;3Q;0dz e b ch ap H;1c b ch ap H;1EPIGRAPHIC b rb I;0gz b e H a y;2c gi OE;
   0dz b c e by M;1EPIGRAPHIC b ch F;4P;3cv M;3I LONGA;3jq M;0SYLOTI NAGRI b A;3I;2f DVISVARA;2b U;3E;3O;
   2f HASANTA;2b KO;3KHO;3GO;3GHO;2f ed;2b CO;3CHO;3JO;3JHO;3TTO;3TTHO;3DDO;3DDHO;3TO;3THO;3DO;3DHO;3NO;3PO;3PHO;
   3BO;3BHO;3MO;3RO;3LO;3RRO;3SO;3HO;2bf f A;4I;4U;4E;4OO;2POETRY MARK-1;+3;2f is HASANTA;@A830 0ei INDIC jt m gj;
   4ap;3s mh;3m ux;4hu;3s yj;2gj q;2PLACEHOLDER q;2RUPEE q;2QUANTITY q;@A840 0PHAGS-PA b KA;2cw;2GA;2ck;2CA;2cs;
   2JA;2cu;2TA;2df;2DA;2NA;2PA;2dq;2BA;2MA;2hc;2mk;2DZA;2WA;2ZHA;2ZA;2c A;2YA;2RA;2LA;2cl;2SA;2HA;2A;2I;2U;2E;2O;
   2QA;2XA;2FA;2GGA;2EE;1uy b WA;3YA;1b ee;2fb;2ef;2eq;2is YA;2VOICELESS cl;2qj HA;2ASPIRATED FA;1uy b RA;
   1SUPERFIXED b RA;1b go;1cm ju q;1p ju q;1q lr;2p lr;@A880 0SAURASHTRA f ed;2fw;1b A;2AA;2I;2II;2U;2UU;2dl R;3RR;
   3L;3LL;2E;2EE;2AI;2O;2OO;2AU;2KA;2cw;2GA;2eg;2ck;2CA;2cs;2JA;2fv;2cu;2ee;2fb;2ef;2ff;2eq;2TA;2df;2DA;2eh;2NA;
   2PA;2dq;2BA;2er;2MA;2YA;2RA;2LA;2VA;2cl;2fc;2SA;2HA;2hp;1it f HAARU;1bf f AA;3I;3II;3U;3UU;3dl R;4RR;4L;4LL;3E;
   3EE;3AI;3O;3OO;3AU;1f fe;2go;@A8CE 1gx;1p gx;1bh bt;2m;2l;2s;2w;2aa;2ag;2ao;2ah;2ar;@A8E0 0fj DEVANAGARI bh bt;
   3m;3l;3s;3w;3aa;3ag;3ao;3ah;3ar;2b A;3U;3KA;3NA;3PA;3RA;3VI;2f lf;0DEVANAGARI f SPACING go;2go fe;2p go fe;
   2go l;3s;3lf;2PUSHPIKA;1GAP qu;1pp;1HEADSTROKE;1f tp;1JAIN OM;1b AY;1bf f AY;0KAYAH LI bh bt;3m;3l;3s;3w;3aa;
   3ag;3ao;3ah;3ar;2b KA;3cw;3GA;3ck;3SA;3cl;3ZA;3cu;3TA;3HTA;3NA;3PA;3dq;3MA;3DA;3BA;3RA;3YA;3LA;3WA;3df;3HA;3VA;
   3CA;3A;3OE;3I;3OO;2bf UE;3E;3U;3EE;3O;2cd PLOPHU;3CALYA;4PLOPHU;2f CWI;3SHYA;0REJANG b KA;2GA;2ck;2TA;2DA;2NA;
   2PA;2BA;2MA;2CA;2JA;2cu;2SA;2RA;2LA;2YA;2WA;2HA;2MBA;2NGGA;2NDA;2NYJA;2A;1bf f I;3U;3E;3AI;3O;3AU;3EU;3EA;
   1it f NG;3N;3R;3H;1fe;@A95F 1in q;0pu CHOSEONG TIKEUT-MIEUM;2TIKEUT-PIEUP;2TIKEUT-SIOS;2TIKEUT-CIEUC;2xz;2zy;
   2zi;2RIEUL-SSANGTIKEUT;2ya;2yb;2RIEUL-SSANGPIEUP;2zv;2yc;2RIEUL-CIEUC;2RIEUL-KHIEUKH;2MIEUM-KIYEOK;
   2MIEUM-TIKEUT;2MIEUM-SIOS;2PIEUP-SIOS-THIEUTH;2PIEUP-KHIEUKH;2PIEUP-HIEUH;2SSANGSIOS-PIEUP;2IEUNG-RIEUL;
   2IEUNG-HIEUH;2SSANGCIEUC-HIEUH;2SSANGTHIEUTH;2PHIEUPH-HIEUH;2HIEUH-SIOS;2SSANGYEORINHIEUH;
   @A980 0JAVANESE f PANYANGGA;2CECAK;2LAYAR;2WIGNYAN;1b A;2I KAWI;3;2II;2U;2PA CEREK;2ck LELET;4RASWADI;2E;2AI;2O;
   2KA;3SASAK;3pe;2GA;3pe;2ck;2CA;3pe;2JA;2cu pe;2JA rz;2cu;2ee;3rz;2ef;3rz;2NA pe;2TA;3pe;2DA;3rz;2NA;2PA;3pe;2BA;
   3pe;2MA;2YA;2RA;3AGUNG;2LA;2WA;2SA pe;3rz;3;2HA;1f CECAK TELU;1bf f TARUNG;3TOLONG;3WULU;4MELIK;3SUKU;4MENDUT;
   3TALING;3DIRGA MURE;3PEPET;1it f KERET;3PENGKAL;3CAKRA;1PANGKON;1k RERENGGAN;1i RERENGGAN;1PADA ANDAP;2MADYA;
   2LUHUR;2WINDU;2PANGKAT;2LINGSA;2LUNGSI;2ADEG;3ADEG;2PISELEH;1by PADA PISELEH;@A9CF 1PANGRANGKEP;1bh bt;2m;2l;2s;
   2w;2aa;2ag;2ao;2ah;2ar;@A9DE 1PADA TIRTA TUMETES;2ISEN-ISEN;0MYANMAR b SHAN eg;3cs;3fv;3eq;3er;1f SHAN SAW;
   1gz b SHAN REDUPLICATION;1b TAI LAING cu;4FA;4GA;4eg;4JA;4fv;4ef;4ff;4eq;1TAI LAING bh bt;4m;4l;4s;4w;4aa;4ag;
   4ao;4ah;4ar;1b TAI LAING hp;4DA;4eh;4BA;4er;@AA00 0CHAM b A;2I;2U;2E;2AI;2O;2KA;2cw;2GA;2eg;2NGUE;2ck;2cs;2CHHA;
   2JA;2fv;2NHUE;2NHA;2NHJA;2TA;2df;2DA;2eh;2NUE;2NA;2ef;2PA;2PPA;2dq;2BA;2er;2MUE;2MA;2BBA;2YA;2RA;2LA;2VA;2fc;
   2SA;2HA;1bf f AA;3I;3II;3EI;3U;3OE;3O;3AI;3AU;3UE;1it f YA;3RA;3LA;3WA;@AA40 1b o K;3G;3NG;1it f o NG;1b o CH;
   3T;3N;3P;3Y;3R;3L;3SS;1it f o M;4H;@AA50 1bh bt;2m;2l;2s;2w;2aa;2ag;2ao;2ah;2ar;@AA5C 1eu SPIRAL;2gx;2p gx;
   2em gx;0MYANMAR b KHAMTI GA;3CA;3cs;3JA;3fv;3cu;3ee;3fb;3ef;3ff;3eh;3NA;3SA;3HA;3HHA;3FA;
   1gz b KHAMTI REDUPLICATION;1b KHAMTI XA;3ZA;3RA;1vz KHAMTI OAY;3QN;3HM;1z AITON hy;3m;3l;1b AITON RA;
   1f PAO KAREN cd;2TAI LAING TONE-2;4TONE-5;1b SHWE PALAUNG cs;4cl;0TAI VIET b bn KO;3cf KO;3bn KHO;3cf KHO;
   3bn KHHO;3cf KHHO;3bn GO;3cf GO;3bn NGO;3cf NGO;3bn CO;3cf CO;3bn CHO;3cf CHO;3bn SO;3cf SO;3bn NYO;3cf NYO;
   3bn DO;3cf DO;3bn TO;3cf TO;3bn THO;3cf THO;3bn NO;3cf NO;3bn BO;3cf BO;3bn PO;3cf PO;3bn PHO;3cf PHO;3bn FO;
   3cf FO;3bn MO;3cf MO;3bn YO;3cf YO;3bn RO;3cf RO;3bn LO;3cf LO;3bn VO;3cf VO;3bn HO;3cf HO;3bn O;3cf O;
   2MAI KANG;2bf AA;3I;3UE;3U;3E;3O;2MAI KHIT;2bf IA;3UEA;3UA;3AUE;3AY;3AN;3AM;2cd MAI EK;4NUENG;4THO;4SONG;
   @AADB 2z KON;3NUENG;3SAM;3HO HOI;3KOI KOI;0MEETEI MAYEK b E;3O;3cs;3cu;3ee;3fb;3ef;3ff;3eq;3cl;3fc;2bf f II;4UU;
   4AAI;4AU;4AAU;2CHEIKHAN;2AHANG KHUDAM;2ANJI;2lb REPETITION q;2ml REPETITION q;2bf f fw;2fe;
   @AB01 0ETHIOPIC lb TTHU;2TTHI;2TTHAA;2TTHEE;2TTHE;2TTHO;@AB09 2DDHU;2DDHI;2DDHAA;2DDHEE;2DDHE;2DDHO;@AB11 2DZU;
   2DZI;2DZAA;2DZEE;2DZE;2DZO;@AB20 2CCHHA;2CCHHU;2CCHHI;2CCHHAA;2CCHHEE;2CCHHE;2CCHHO;@AB28 2BBA;2BBU;2BBI;2BBAA;
   2BBEE;2BBE;2BBO;@AB30 0dz c b pm gg;3A REVERSED-SCHWA;3BLACKLETTER E;3pm E;3E a vn;3LENIS F;3im G a qq;
   3L a cv LAZY S;5p ae bg;5ae bi;3M a qq;3N a qq;3ENG a qq;3BLACKLETTER O;5a y;3bw O a y;3cv OE;3by OE a y;6bd y;
   4O OPEN-O;6a y;3STIRRUP R;1b c e R a i LEG;1c b R WITHOUT HANDLE;3p R;3R a qq;3p R a qq;3im R;5a bi;
   3BASELINE ESH;3U a ec i LEG;4ak a ec i LEG;3UI;3by UI;3U a k x;3CHI;4a bn i bi;6k SERIF;3X a bn i bi;5bz k LEG;
   8g bn i bi;8a SERIF;3Y a ec i LEG;0gz dn a cv dn;1b c HENG;3L a cv LAZY S;5ae bg;3U a k x;0dz c b SAKHA YAT;
   3lk E;3bw OE;3UO;3cv gg;0if b c e fo;0dz c b DZ hl a ey x;3TS hl a ey x;3by R a ae bg;0gz b c by W;2k ge;2i ge;
   @AB70 0CHEROKEE c b A;3E;3I;3O;3U;3V;3GA;3KA;3GE;3GI;3GO;3GU;3GV;3HA;3HE;3HI;3HO;3HU;3HV;3LA;3LE;3LI;3LO;3LU;
   3LV;3MA;3ME;3MI;3MO;3MU;3NA;3HNA;3NAH;3NE;3NI;3NO;3NU;3NV;3QUA;3QUE;3QUI;3QUO;3QUU;3QUV;3SA;3S;3SE;3SI;3SO;3SU;
   3SV;3DA;3TA;3DE;3TE;3DI;3TI;3DO;3DU;3DV;3DLA;3TLA;3TLE;3TLI;3TLO;3TLU;3TLV;3hc;3TSE;3TSI;3TSO;3TSU;3TSV;3WA;3WE;
   3WI;3WO;3WU;3WV;3YA;0MEETEI MAYEK b KOK;3SAM;3LAI;3MIT;3PA;3NA;3CHIL;3TIL;3KHOU;3NGOU;3THOU;3WAI;3YANG;3HUK;3UN;
   3I;3PHAM;3ATIYA;3GOK;3JHAM;3RAI;3BA;3JIL;3DIL;3GHOU;3DHOU;3BHAM;3KOK ry;3LAI ry;3MIT ry;3PA ry;3NA ry;3TIL ry;
   3NGOU ry;3I ry;2bf f ONAP;4INAP;4ANAP;4YENAP;4SOUNAP;4UNAP;4CHEINAP;4NUNG;2CHEIKHEI;2LUM IYEK;2APUN IYEK;
   @ABF0 2bh bt;3m;3l;3s;3w;3aa;3ag;3ao;3ah;3ar;@D7B0 0pu JUNGSEONG O-YEO;2O-O-I;2YO-A;2YO-AE;2YO-EO;2U-YEO;2U-I-I;
   2YU-AE;2YU-O;2EU-A;2EU-EO;2EU-E;2EU-O;2I-YA-O;2I-YAE;2I-YEO;2I-YE;2I-O-I;2I-YO;2I-YU;2I-I;2ARAEA-A;2ARAEA-E;
   @D7CB 1JONGSEONG NIEUN-RIEUL;2NIEUN-CHIEUCH;2yn;2SSANGTIKEUT-PIEUP;2TIKEUT-PIEUP;2TIKEUT-SIOS;
   2TIKEUT-SIOS-KIYEOK;2TIKEUT-CIEUC;2TIKEUT-CHIEUCH;2TIKEUT-THIEUTH;2zy;2RIEUL-KIYEOK-HIEUH;2SSANGRIEUL-KHIEUKH;
   2RIEUL-MIEUM-HIEUH;2RIEUL-PIEUP-TIKEUT;2RIEUL-PIEUP-PHIEUPH;2RIEUL-YESIEUNG;2RIEUL-YEORINHIEUH-HIEUH;
   2KAPYEOUNRIEUL;2MIEUM-NIEUN;2MIEUM-SSANGNIEUN;2SSANGMIEUM;2MIEUM-PIEUP-SIOS;2MIEUM-CIEUC;2ze;
   2PIEUP-RIEUL-PHIEUPH;2PIEUP-MIEUM;2ym;2zd;2PIEUP-CIEUC;2PIEUP-CHIEUCH;2SIOS-MIEUM;2SIOS-KAPYEOUNPIEUP;
   2SSANGSIOS-KIYEOK;2SSANGSIOS-TIKEUT;2SIOS-PANSIOS;2SIOS-CIEUC;2SIOS-CHIEUCH;2SIOS-THIEUTH;2SIOS-HIEUH;
   2PANSIOS-PIEUP;2PANSIOS-KAPYEOUNPIEUP;2YESIEUNG-MIEUM;2YESIEUNG-HIEUH;2CIEUC-PIEUP;2CIEUC-SSANGPIEUP;2yk;
   2PHIEUPH-SIOS;2PHIEUPH-THIEUTH;@FB00 0dz c gi FF;3FI;3FL;3FFI;3FFL;3bz S T;3ST;@FB13 0vg c gi MEN NOW;4ECH;4INI;
   3VEW NOW;3MEN XEH;@FB1D 0HEBREW b YOD a HIRIQ;1no JUDEO-SPANISH VARIKA;1gi YIDDISH YOD YOD PATAH;
   1b ALTERNATIVE AYIN;2WIDE ba;3DALET;3HE;3gy;3LAMED;3o MEM;3RESH;3TAV;2ALTERNATIVE al f;2hb a hb r;4SIN r;
   4iu g hb r;6SIN r;2ba a PATAH;4QAMATS;4MAPIQ;2BET a iu;2lh a iu;2DALET a iu;2HE a MAPIQ;2VAV a iu;2nc a iu;
   @FB38 2TET a iu;2YOD a iu;2o gy a iu;2gy a iu;2LAMED a iu;@FB3E 2MEM a iu;@FB40 2ej a iu;2lq a iu;
   @FB43 2o PE a iu;2PE a iu;@FB46 2TSADI a iu;2QOF a iu;2RESH a iu;2hb a iu;2TAV a iu;2VAV a HOLAM;2BET a RAFE;
   2gy a RAFE;2PE a RAFE;1gi ba LAMED;0jp b ba WASLA u d;4o d;2BEEH u d;3o d;3ab d;3bs d;2PEH u d;3o d;3ab d;3bs d;
   2BEHEH u d;3o d;3ab d;3bs d;2TTEHEH u d;3o d;3ab d;3bs d;2TEHEH u d;3o d;3ab d;3bs d;2TTEH u d;3o d;3ab d;3bs d;
   2VEH u d;3o d;3ab d;3bs d;2PEHEH u d;3o d;3ab d;3bs d;2DYEH u d;3o d;3ab d;3bs d;2NYEH u d;3o d;3ab d;3bs d;
   2TCHEH u d;3o d;3ab d;3bs d;2TCHEHEH u d;3o d;3ab d;3bs d;2DDAHAL u d;3o d;2DAHAL u d;3o d;2DUL u d;3o d;
   2DDAL u d;3o d;2JEH u d;3o d;2RREH u d;3o d;2KEHEH u d;3o d;3ab d;3bs d;2GAF u d;3o d;3ab d;3bs d;2GUEH u d;
   3o d;3ab d;3bs d;2NGOEH u d;3o d;3ab d;3bs d;2fl GHUNNA u d;4o d;2RNOON u d;3o d;3ab d;3bs d;2hg a ax j u d;
   6o d;3GOAL u d;4o d;4ab d;4bs d;3DOACHASHMEE u d;4o d;4ab d;4bs d;2ax BARREE u d;4o d;4a fu j u d;7o d;1z r j;
   3n;2l aw j;4n;2s aw j;4n;4cy bj j;6n;2w aw j;4n;2p af ak n;2l aw tu j;5n;2bi;2c TAH j;4n;2WASLA j;
   @FBD3 1b NG u d;3o d;3ab d;3bs d;2U u d;3o d;2OE u d;3o d;2YU u d;3o d;2U a fu j u d;2VE u d;3o d;
   2KIRGHIZ OE u d;4o d;3YU u d;4o d;2E u d;3o d;3ab d;3bs d;2UIGHUR KAZAKH KIRGHIZ ba ct ab d;7bs d;
   1gi ax a fu j a ba u d;8o d;7AE u d;8o d;7fq u d;8o d;7U u d;8o d;7OE u d;8o d;7YU u d;8o d;7E u d;8o d;8ab d;
   2UIGHUR KIRGHIZ ax a fu j a ba ct u d;9ba ct o d;9ba ct ab d;1b FARSI ax u d;4o d;4ab d;4bs d;
   1gi ax a fu j a bx u d;7br u d;7aj u d;7ba ct u d;7ax u d;2BEH a bx u d;4br u d;4dt u d;4aj u d;4ba ct u d;
   4ax u d;2TEH a bx u d;4br u d;4dt u d;4aj u d;4ba ct u d;4ax u d;2THEH a bx u d;4aj u d;4ba ct u d;4ax u d;
   2bx a br u d;4aj u d;2br a bx u d;4aj u d;2dt a bx u d;4br u d;4aj u d;2hv a bx u d;4br u d;4dt u d;4aj u d;
   2SAD a br u d;4aj u d;2DAD a bx u d;4br u d;4dt u d;4aj u d;2TAH a br u d;4aj u d;2ZAH a aj u d;2gf a bx u d;
   4aj u d;2ku a bx u d;4aj u d;2FEH a bx u d;4br u d;4dt u d;4aj u d;4ba ct u d;4ax u d;2QAF a br u d;4aj u d;
   4ba ct u d;4ax u d;2gy a ba u d;4bx u d;4br u d;4dt u d;4ft u d;4aj u d;4ba ct u d;4ax u d;2ft a bx u d;4br u d;
   4dt u d;4aj u d;4ba ct u d;4ax u d;2aj a bx u d;4br u d;4dt u d;4aj u d;4ba ct u d;4ax u d;2fl a bx u d;4br u d;
   4dt u d;4aj u d;4ba ct u d;4ax u d;2hg a bx u d;4aj u d;4ba ct u d;4ax u d;2ax a bx u d;4br u d;4dt u d;4aj u d;
   4ba ct u d;4ax u d;2THAL a nv ba u d;2gu a nv ba u d;2ba ct a nv ba u d;2SHADDA a vm u d;4vu u d;4oc u d;
   4pr u d;4ni u d;4nv ba u d;2ax a fu j a gu o d;7mn o d;7aj o d;7fl o d;7ba ct o d;7ax o d;2BEH a gu o d;4mn o d;
   4aj o d;4fl o d;4ba ct o d;4ax o d;2TEH a gu o d;4mn o d;4aj o d;4fl o d;4ba ct o d;4ax o d;2THEH a gu o d;
   4mn o d;4aj o d;4fl o d;4ba ct o d;4ax o d;2FEH a ba ct o d;4ax o d;2QAF a ba ct o d;4ax o d;2gy a ba o d;
   4ft o d;4aj o d;4ba ct o d;4ax o d;2ft a aj o d;4ba ct o d;4ax o d;2aj a ba o d;4aj o d;2fl a gu o d;4mn o d;
   4aj o d;4fl o d;4ba ct o d;4ax o d;2ba ct a nv ba o d;2ax a gu o d;4mn o d;4aj o d;4fl o d;4ba ct o d;4ax o d;
   4fu j a bx ab d;7br ab d;7dt ab d;7aj ab d;7hg ab d;2BEH a bx ab d;4br ab d;4dt ab d;4aj ab d;4hg ab d;
   2TEH a bx ab d;4br ab d;4dt ab d;4aj ab d;4hg ab d;2THEH a aj ab d;2bx a br ab d;4aj ab d;2br a bx ab d;
   4aj ab d;2dt a bx ab d;4aj ab d;2hv a bx ab d;4br ab d;4dt ab d;4aj ab d;2SAD a br ab d;4dt ab d;4aj ab d;
   2DAD a bx ab d;4br ab d;4dt ab d;4aj ab d;2TAH a br ab d;2ZAH a aj ab d;2gf a bx ab d;4aj ab d;2ku a bx ab d;
   4aj ab d;2FEH a bx ab d;4br ab d;4dt ab d;4aj ab d;2QAF a br ab d;4aj ab d;2gy a bx ab d;4br ab d;4dt ab d;
   4ft ab d;4aj ab d;2ft a bx ab d;4br ab d;4dt ab d;4aj ab d;4hg ab d;2aj a bx ab d;4br ab d;4dt ab d;4aj ab d;
   2fl a bx ab d;4br ab d;4dt ab d;4aj ab d;4hg ab d;2hg a bx ab d;4aj ab d;4nv ba ab d;2ax a bx ab d;4br ab d;
   4dt ab d;4aj ab d;4hg ab d;4fu j a aj bs d;7hg bs d;2BEH a aj bs d;4hg bs d;2TEH a aj bs d;4hg bs d;
   2THEH a aj bs d;4hg bs d;2hv a aj bs d;4hg bs d;2jx a aj bs d;4hg bs d;2gy a ft bs d;4aj bs d;2ft a aj bs d;
   2fl a aj bs d;4hg bs d;2ax a aj bs d;4hg bs d;2SHADDA a oc bs d;4pr bs d;4ni bs d;2TAH a ba ct u d;4ax u d;
   2gf a ba ct u d;4ax u d;2ku a ba ct u d;4ax u d;2hv a ba ct u d;4ax u d;2jx a ba ct u d;4ax u d;2br a ba ct u d;
   4ax u d;2bx a ba ct u d;4ax u d;2dt a ba ct u d;4ax u d;2SAD a ba ct u d;4ax u d;2DAD a ba ct u d;4ax u d;
   2jx a bx u d;4br u d;4dt u d;4aj u d;4gu u d;2hv a gu u d;2SAD a gu u d;2DAD a gu u d;2TAH a ba ct o d;4ax o d;
   2gf a ba ct o d;4ax o d;2ku a ba ct o d;4ax o d;2hv a ba ct o d;4ax o d;2jx a ba ct o d;4ax o d;2br a ba ct o d;
   4ax o d;2bx a ba ct o d;4ax o d;2dt a ba ct o d;4ax o d;2SAD a ba ct o d;4ax o d;2DAD a ba ct o d;4ax o d;
   2jx a bx o d;4br o d;4dt o d;4aj o d;4gu o d;2hv a gu o d;2SAD a gu o d;2DAD a gu o d;2jx a bx ab d;4br ab d;
   4dt ab d;4aj ab d;2hv a hg ab d;2jx a hg ab d;2TAH a aj ab d;2hv a bx bs d;4br bs d;4dt bs d;2jx a bx bs d;
   4br bs d;4dt bs d;2TAH a aj bs d;2ZAH a aj bs d;2ba a ui o d;5u d;0ORNATE k ex;1i ex;0jp gi RAHIMAHU ALLAAH;
   2RADI ALLAAHU ANH;4ANHAA;4ANHUM;4ANHUMAA;4ANHUNNA;2SALLALLAAHU ALAYHI WA-AALIH;2ALAYHI ws;2ALAYHIM ws;
   2ALAYHIMAA ws;2ALAYHI AS-SALAATU WAS-SALAAM;2QUDDISA SIRRAH;2SALLALLAHU ALAYHI WAAALIHEE WA-SALLAM;2ALAYHAA ws;
   2TABAARAKA WA-TAAALAA;2RAHIMAHUM ALLAAH;2TEH a bx a aj ab d;4br a bx o d;7ab d;6aj ab d;4dt a aj ab d;
   4aj a bx ab d;6br ab d;6dt ab d;2bx a aj a br o d;7ab d;2br a aj a ax o d;6ba ct o d;2hv a br a bx ab d;
   4bx a br ab d;6ba ct o d;4aj a br o d;7ab d;6bx ab d;6aj o d;7ab d;2SAD a br a br o d;7ab d;4aj a aj o d;
   2jx a br a aj o d;7ab d;4bx a ax o d;4aj a dt o d;7ab d;6aj o d;7ab d;2DAD a br a ba ct o d;4dt a aj o d;7ab d;
   2TAH a aj a br o d;7ab d;6aj ab d;6ax o d;2gf a bx a aj o d;4aj a aj o d;7ab d;6ba ct o d;2ku a aj a aj o d;
   6ax o d;6ba ct o d;2FEH a dt a aj o d;7ab d;2QAF a aj a br o d;6aj o d;2ft a br a aj o d;6ax o d;6ba ct o d;
   4bx a bx ab d;7o d;4dt a aj o d;7ab d;4aj a br o d;7ab d;2aj a br a bx ab d;6aj ab d;6ax o d;4bx a br ab d;
   6aj ab d;4dt a bx ab d;6aj ab d;@FD92 4bx a dt ab d;2hg a aj a bx ab d;6aj ab d;2fl a br a aj ab d;6ba ct o d;
   4bx a aj o d;7ab d;6ba ct o d;4aj a ax o d;6ba ct o d;2ax a aj a aj o d;7ab d;2BEH a dt a ax o d;
   2TEH a bx a ax o d;6ba ct o d;4dt a ax o d;6ba ct o d;4aj a ax o d;6ba ct o d;2bx a aj a ax o d;4br a ba ct o d;
   4aj a ba ct o d;2hv a dt a ba ct o d;2SAD a br a ax o d;2jx a br a ax o d;2DAD a br a ax o d;2ft a bx a ax o d;
   4aj a ax o d;2ax a br a ax o d;4bx a ax o d;4aj a ax o d;2aj a aj a ax o d;2QAF a aj a ax o d;2fl a br a ax o d;
   2QAF a aj a br ab d;2ft a br a aj ab d;2gf a aj a ax o d;2gy a aj a ax o d;2fl a bx a br ab d;2aj a dt a ax o d;
   2ft a bx a aj ab d;2gy a aj a aj o d;2ft a bx a aj o d;2fl a bx a br o d;2bx a br a ax o d;2br a bx a ax o d;
   2aj a bx a ax o d;2FEH a aj a ax o d;2BEH a br a ax o d;2gy a aj a aj ab d;2gf a bx a aj ab d;
   2SAD a aj a aj ab d;2hv a dt a ax o d;2fl a bx a ax o d;@FDCF 2SALAAMUHU ALAYNAA;
   @FDF0 2SALLA USED AS KORANIC cn f u d;2QALA USED AS KORANIC cn f u d;2ALLAH u d;2AKBAR u d;2MOHAMMAD u d;
   2SALAM u d;2RASOUL u d;2ALAYHE u d;2WASALLAM u d;2SALLA u d;2SALLALLAHOU ALAYHE WASALLAM;2JALLAJALALOUHOU;
   0RIAL f;0jp gi BISMILLAH AR-RAHMAN AR-RAHEEM;2SUBHAANAHU WA TAAALAA;2AZZA WA JALL;0wn SELECTOR-1;+15;
   0xx d fk af de;4ma de;5eb cn;4gm;4oq;4hy q;4hj q;4k v qw as;4i v qw BRAKCET;4bd rp;@FE20 0fj gi k ap;2i ap;
   1p bg k ap;3i ap;1cx k ap;2i ap;1CONJOINING cx;1gi k ap n;2i ap n;1bg k ap n;2i ap n;1cx k ap n;2i ap n;
   1CONJOINING cx n;1mq TITLO k ap;3i ap;0xx d fk af l r LEADER;4EM ew;4EN ew;4bn cj;4WAVY bn cj;4k ex;4i ex;
   4k hw as;4i hw as;4k kq io as;4i kq io as;4k t qw as;4i t qw as;4k p dw as;4i p dw as;4k dw as;4i dw as;
   4k gn as;4i gn as;4k v gn as;4i v gn as;0SESAME r;0v SESAME r;0xx d fk af k au as;4i au as;0ng sg;
   0CENTRELINE sg;0WAVY sg;0p WAVY sg;0ng bn cj;0CENTRELINE bn cj;0WAVY bn cj;0c de;1ma de;1eb cn;@FE54 1oq;1gm;
   1hj q;1hy q;1EM ew;1k ex;1i ex;1k hw as;1i hw as;1k kq io as;1i kq io as;1cz f;1re;1ek;1al f;1xg;1dh f;1dj f;
   1fy f;@FE68 1jc ip;1td f;1PERCENT f;1vk AT;@FE70 0jp ui u d;1TATWEEL a ui j;1vm u d;1dr FRAGMENT;1vu u d;
   @FE76 1oc u d;2bs d;1pr u d;2bs d;1ni u d;2bs d;1SHADDA u d;2bs d;1SUKUN u d;2bs d;1b fu u d;2ba a MADDA j u d;
   6o d;4fu j u d;6o d;2fq a fu j u d;6o d;2ba a fu n u d;6o d;2ax a fu j u d;6o d;6ab d;6bs d;2ba u d;3o d;
   2BEH u d;3o d;3ab d;3bs d;2TEH MARBUTA u d;4o d;3u d;3o d;3ab d;3bs d;2THEH u d;3o d;3ab d;3bs d;2bx u d;3o d;
   3ab d;3bs d;2br u d;3o d;3ab d;3bs d;2dt u d;3o d;3ab d;3bs d;2DAL u d;3o d;2THAL u d;3o d;2gu u d;3o d;2mn u d;
   3o d;2hv u d;3o d;3ab d;3bs d;2jx u d;3o d;3ab d;3bs d;2SAD u d;3o d;3ab d;3bs d;2DAD u d;3o d;3ab d;3bs d;
   2TAH u d;3o d;3ab d;3bs d;2ZAH u d;3o d;3ab d;3bs d;2gf u d;3o d;3ab d;3bs d;2ku u d;3o d;3ab d;3bs d;2FEH u d;
   3o d;3ab d;3bs d;2QAF u d;3o d;3ab d;3bs d;2gy u d;3o d;3ab d;3bs d;2ft u d;3o d;3ab d;3bs d;2aj u d;3o d;3ab d;
   3bs d;2fl u d;3o d;3ab d;3bs d;2hg u d;3o d;3ab d;3bs d;2fq u d;3o d;2ba ct u d;4o d;2ax u d;3o d;3ab d;3bs d;
   1gi ft a ba a MADDA j u d;8o d;6fu j u d;8o d;7n u d;8o d;5u d;5o d;@FEFF 0bt WIDTH NO-BREAK jf;
   @FF01 0FULLWIDTH hy q;1ha q;1cz f;1td f;1PERCENT f;1re;1qk;1k ex;1i ex;1ek;1al f;1de;1xg;1eb cn;1ip;1bh bt;2m;
   2l;2s;2w;2aa;2ag;2ao;2ah;2ar;1gm;1oq;1dh f;1fy f;1dj f;1hj q;1vk AT;1dz e b A;4B;4C;4D;4E;4F;4G;4H;4I;4J;4K;4L;
   4M;4N;4O;4P;4Q;4R;4S;4T;4U;4V;4W;4X;4Y;4Z;1k au as;1jc ip;1i au as;1cb fi;1bn cj;1cr fi;1dz c b A;4B;4C;4D;4E;
   4F;4G;4H;4I;4J;4K;4L;4M;4N;4O;4P;4Q;4R;4S;4T;4U;4V;4W;4X;4Y;4Z;1k hw as;1af cj;1i hw as;1bg;1k v ex;1i v ex;
   0HALFWIDTH ma eb cn;1k gn as;1i gn as;1ma de;1pc ae r;2b WO;3c A;4I;4U;4E;4O;4YA;4YU;4YO;4TU;1vv PROLONGED la q;
   1pc b A;3I;3U;3E;3O;3KA;3KI;3KU;3KE;3KO;3SA;3SI;3SU;3SE;3SO;3TA;3TI;3TU;3TE;3TO;3NA;3NI;3NU;3NE;3NO;3HA;3HI;3HU;
   3HE;3HO;3MA;3MI;3MU;3ME;3MO;3YA;3YU;3YO;3RA;3RI;3RU;3RE;3RO;3WA;3N;2qj la q;2SEMI-VOICED la q;1pu qu;2b rx;3yl;
   3KIYEOK-SIOS;3NIEUN;3xq;3xr;3sv;3yn;3RIEUL;3xz;3ya;3yb;3yc;3zh;3zg;3xy;3MIEUM;3PIEUP;3ym;3xv;3SIOS;3SSANGSIOS;
   3IEUNG;3CIEUC;3yk;3rh;3rw;3ss;3sk;3HIEUH;@FFC2 3A;3AE;3YA;3YAE;3EO;3E;@FFCA 3YEO;3YE;3O;3WA;3WAE;3OE;@FFD2 3YO;
   3U;3WEO;3WE;3WI;3YU;@FFDA 3EU;3YI;3I;@FFE0 0FULLWIDTH CENT f;1POUND f;1di f;1cx;1BROKEN ak;1YEN f;1WON f;
   @FFE8 0HALFWIDTH FORMS be af;1am h;1bq h;1ac h;1bj h;1t au;1v av;@FFF9 0INTERLINEAR ANNOTATION ANCHOR;2gv;
   2TERMINATOR;0OBJECT REPLACEMENT lg;0REPLACEMENT lg"

end CommonExpr.Text.Name
