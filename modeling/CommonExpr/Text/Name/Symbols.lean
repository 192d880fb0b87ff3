/-! Names of punctuation, of technical and mathematical symbols, and of letters added later. -/

namespace CommonExpr.Text.Name

/-- The names from 2000 to 2FFF, in the notation of the tables of names. -/
def symbols : String :=
  "@2000 0EN mx;0EM mx;0EN jf;0EM jf;0THREE-PER-EM jf;0FOUR-PER-EM jf;0SIX-PER-EM jf;0FIGURE jf;0eu jf;0THIN jf;
   0HAIR jf;0bt WIDTH jf;2NON-JOINER;2ti;0vy q;0yf q;0oe;0NON-BREAKING oe;0FIGURE ew;0EN ew;0EM ew;0bd ak;0p af cj;
   1bn cj;0k cm ha q;0i cm ha q;0cm LOW-9 ha q;1HIGH-REVERSED-9 ha q;0k p ha q;0i p ha q;0p LOW-9 ha q;
   1HIGH-REVERSED-9 ha q;0DAGGER;0p DAGGER;0mo;0jh mo;0m r LEADER;0l r LEADER;0bd rp;0HYPHENATION no;0cj gv;0we gv;
   0vy EMBEDDING;0yf EMBEDDING;0POP DIRECTIONAL FORMATTING;0vy OVERRIDE;0yf OVERRIDE;0NARROW NO-BREAK jf;
   0PER MILLE f;1ca az f;0on;0p on;0em on;0ch on;1p on;1em on;0pp;0cm jn dw ha q;1il dw ha q;0REFERENCE q;0p hy q;
   0vt;0sg;0UNDERTIE;0lg TIE;0pp INSERTION no;0ASTERISM;0oe mo;0jt ls;0k au as a QUILL;0i au as a QUILL;0p hj q;
   0hj hy q;0hy hj q;0TIRONIAN f ET;0ch PILCROW f;0t am mo;1ac mo;0bn ek;0ch oq;0CLOSE UP;0l ASTERISKS ALIGNED tu;
   0vk km f;0SWUNG ew;0cv UNDERTIE;0FLOWER eu q;0s r eu;0pf on;0w r eu;0aa r eu;0l r eu;0w r q;0fm el;0TRICOLON;
   0af w aw;0bp us jf;0ml ti;0FUNCTION APPLICATION;0INVISIBLE ai;1gv;1al;@2066 0vy ISOLATE;0yf ISOLATE;
   0FIRST STRONG ISOLATE;0POP DIRECTIONAL ISOLATE;0INHIBIT SYMMETRIC SWAPPING;0ACTIVATE SYMMETRIC SWAPPING;
   0INHIBIT jp d SHAPING;0ACTIVATE jp d SHAPING;0NATIONAL bh SHAPES;0NOMINAL bh SHAPES;0nv bt;1dz c b I;@2074 1w;
   1aa;1ag;1ao;1ah;1ar;1al f;1km;1fy f;1k ex;1i ex;1dz c b N;0tr bt;1m;1l;1s;1w;1aa;1ag;1ao;1ah;1ar;1al f;1km;
   1fy f;1k ex;1i ex;@2090 0dz tr c b A;4E;4O;4X;4qe;4H;4K;4L;4M;4N;4P;4S;4T;@20A0 0EURO-CURRENCY f;0gm f;
   0CRUZEIRO f;0FRENCH FRANC f;0LIRA f;0MILL f;0NAIRA f;0PESETA f;0RUPEE f;0WON f;0NEW SHEQEL f;0DONG f;0EURO f;
   0KIP f;0TUGRIK f;0DRACHMA f;0GERMAN PENNY f;0PESO f;0GUARANI f;0AUSTRAL f;0HRYVNIA f;0CEDI f;0LIVRE TOURNOIS f;
   0SPESMILO f;0TENGE f;0INDIAN RUPEE f;0TURKISH LIRA f;0NORDIC q f;0MANAT f;0RUBLE f;0LARI f;0BITCOIN f;0SOM f;
   @20D0 0fj k do j;1i do j;1bz af cj iw;1ec af cj iw;1kb h j;1ne h j;1k h j;1i h j;1bi iw;1ne bi iw;1kb bi iw;
   1s aw j;1w aw j;1ENCLOSING av;2au;2fh;2av ta;1k i h j;1ENCLOSING SCREEN;2KEYCAP;2UPWARD cy bl;1jc ip iw;
   1p af y iw;1ANNUITY z;1em UNDERDOT;1WIDE BRIDGE j;1am h iw;1bz p ip iw;1ac do a bm bj;1am do a bm bj;1k h n;
   1i h n;1ek j;@2100 0ACCOUNT OF;0ADDRESSED TO fp SUBJECT;0oz e C;0DEGREE CELSIUS;0dm cj z;0CARE OF;0CADA UNA;
   0EULER CONSTANT;0SCRUPLE;0DEGREE FAHRENHEIT;0im c G;1e H;0vh e H;0oz e H;0PLANCK CONSTANT;2ay l PI;0im e I;
   0vh e I;0im e L;1c L;0L B ak z;0oz e N;0NUMERO f;0la RECORDING COPYRIGHT;0im e P;0oz e P;2Q;0im e R;0vh e R;
   0oz e R;0PRESCRIPTION TAKE;0RESPONSE;0SERVICE q;0ot f;0TRADE q f;0VERSICLE;0oz e Z;0OUNCE f;0OHM f;0cv OHM f;
   0vh e Z;0by if c b gt;0KELVIN f;0ANGSTROM f;0im e B;0vh e C;0ESTIMATED z;0im c E;1e E;2F;0by e F;0im e M;1c O;
   0ba z;0BET z;0lh z;0DALET z;0un SOURCE;0db e Q;0FACSIMILE f;0oz c PI;2iz;1e iz;2PI;1N-ARY SUMMATION;0by ix e G;
   3L;0ch ix e L;0by ix e Y;0oz pb e D;2c D;3E;3I;3J;0PROPERTY cj;0by re;0PER f;0AKTIESELSKAB;0by c F;
   0z fk SAMARITAN SOURCE;0VULGAR jt m SEVENTH;3NINTH;3TENTH;3nw;2l rc;2m FIFTH;2l FIFTHS;2s FIFTHS;2w FIFTHS;
   2m SIXTH;2aa SIXTHS;2m hu;2s lw;2aa lw;2ao lw;0jt NUMERATOR m;0ROMAN qc m;2l;2s;2w;2aa;2ag;2ao;2ah;2ar;2ca;2ob;
   2na;2gh;2m aq;2aa aq;2m az;0c ROMAN qc m;3l;3s;3w;3aa;3ag;3ao;3ah;3ar;3ca;3ob;3na;3gh;3m aq;3aa aq;3m az;
   0ROMAN qc m az C D;2aa az;2ca az;2ch m aq;0dz c b ch C;0ROMAN qc ag LATE d;2gh EARLY d;3az;2m aq az;
   0VULGAR jt bt rc;0by bh l;2s;@2190 0am h;0bq h;0ac h;0bj h;0k i h;0UP an h;0ei dv h;1da h;0ev da h;1dv h;
   0am h a y;0ac h a y;0am jj h;0ac jj h;0am l HEADED h;0bq l HEADED h;0ac l HEADED h;0bj l HEADED h;0am h a dr;
   0ac h a dr;0am h gq ak;0bq h gq ak;0ac h gq ak;0bj h gq ak;0UP an h a BASE;0am h a x;0ac h a x;0am h a kl;
   0ac h a kl;0k i jj h;2h a y;0bj sy h;0bq h a TIP am;4ac;0bj h a TIP am;4ac;0ac h a gn bj;0bj h a gn am;
   0kb fa wi h;0ne fa wi h;0ei dv h TO bz ak;0am h TO ak ay ac h TO ak;0kb bw av h;0ne bw av h;0am do a bm bq;4bj;
   0bq do a bm ac;4am;0ac do a bm bq;4bj;0bj do a bm ac;4am;0ac h ay am h;0bq h am OF bj h;0am h ay ac h;1sh le;
   0bq sh le;0ac sh le;0bj sh le;0am do ay ac do;0ac do ay am do;0am p h a y;0k i p h a y;0ac p h a y;0am p h;
   0bq p h;0ac p h;0bj p h;0k i p h;0UP an p h;0ei dv p h;1da p h;0ev da p h;1dv p h;0am em h;0ac em h;
   0am SQUIGGLE h;0ac SQUIGGLE h;0bq h a p y;0bj h a p y;0am ng h;0bq ng h;0ac ng h;0bj ng h;0am h TO ak;
   0ac h TO ak;0am v h;0bq v h;0ac v h;0bj v h;0bq v h gq ak;3ON PEDESTAL;5a bd ak;6af ak;2p h;4ON PEDESTAL;
   0ac v h gq WALL;0ei dv h TO gn;0ev da h TO gn;0UP an v h;0i h a c av;0bj h am OF bq h;0s ac le;0am h a af y;
   0ac h a af y;0k i h a af y;0am h a p af y;0ac h a p af y;0k i h a p af y;0am OPEN-HEADED h;0ac OPEN-HEADED h;
   0k i OPEN-HEADED h;0fk ALL;0COMPLEMENT;0sj uc;0THERE EXISTS;1DOES di EXIST;0EMPTY SET;0INCREMENT;0NABLA;0ps OF;
   0di AN ps OF;0c ps OF;0rj AS MEMBER;0DOES di CONTAIN AS MEMBER;0c rj AS MEMBER;0fs OF PROOF;0N-ARY nq;
   1COPRODUCT;1SUMMATION;0km f;0MINUS-OR-PLUS f;0r al;0rm ls;0SET km;0ek es;0bi es;0mo es;0au ROOT;0CUBE ROOT;
   0FOURTH ROOT;0PROPORTIONAL TO;0um;0i dw;0dw;0wa dw;0SPHERICAL dw;0DIVIDES;0DOES di DIVIDE;0si TO;0di si TO;
   0nj g;1OR;0kx;0lc;0jw;0p jw;0em jw;0CONTOUR jw;0SURFACE jw;0VOLUME jw;0ne jw;1CONTOUR jw;0kb CONTOUR jw;
   0THEREFORE;0BECAUSE;0RATIO;0PROPORTION;0r km;0EXCESS;0GEOMETRIC PROPORTION;0HOMOTHETIC;0bg es;0ch bg;0cv LAZY S;
   0SINE jj;0WREATH nq;0di bg;0km bg;0ASYMPTOTICALLY bc TO;0di ASYMPTOTICALLY bc TO;0vf bc TO;
   1BUT di ACTUALLY bc TO;0NEITHER vf NOR ACTUALLY bc TO;0ld bc TO;0di ld bc TO;0ld bc OR bc TO;0em bg;0ALL bc TO;
   0ly TO;0GEOMETRICALLY ly TO;0DIFFERENCE kt;0APPROACHES fp LIMIT;0GEOMETRICALLY bc TO;0vf bc TO OR fp IMAGE OF;
   0IMAGE OF OR vf bc TO;0gm fy;0fy gm;0bi IN bc TO;1bc TO;0CORRESPONDS TO;0ESTIMATES;0EQUIANGULAR TO;0dk fy;
   0jm bc TO;0bc TO BY DEFINITION;0wa BY;0QUESTIONED bc TO;0di bc TO;0xh TO;0di xh TO;0STRICTLY ly TO;0dh OR bc TO;
   0dj OR bc TO;0dh ay bc TO;0dj ay bc TO;0dh BUT di bc TO;0dj BUT di bc TO;0MUCH dh;1dj;0kt;0di ly TO;1dh;1dj;
   0NEITHER dh NOR bc TO;1dj NOR bc TO;0dh OR ly TO;0dj OR ly TO;0NEITHER dh NOR ly TO;1dj NOR ly TO;0dh OR dj;
   0dj OR dh;0NEITHER dh NOR dj;1dj NOR dh;0np;0nu;0np OR bc TO;0nu OR bc TO;0np OR ly TO;0nu OR ly TO;
   0DOES di PRECEDE;2SUCCEED;0id OF;0ir OF;0di A id OF;2ir OF;0id OF OR bc TO;0ir OF OR bc TO;
   0NEITHER A id OF NOR bc TO;2ir OF NOR bc TO;0id OF a di bc TO;0ir OF a di bc TO;0MULTISET;1pd;1lc;0au IMAGE OF;
   1wd OF;1IMAGE OF OR bc TO;1wd OF OR bc TO;1CAP;1CUP;0ds al;1km;1ai;1rm ls;1r es;1bi es;1ek es;1fy;1ew;0ga al;
   1km;1ai;1r es;0i ge;0k ge;0an ge;0UP ge;0ASSERTION;0MODELS;0TRUE;0FORCES;0em af ak i sw;0p af ak p i sw;
   0DOES di PROVE;0di TRUE;0DOES di FORCE;0NEGATED p af ak p i sw;0np UNDER RELATION;0nu UNDER RELATION;0qb sp OF;
   0rj AS qb sp;0qb sp OF OR bc TO;0rj AS qb sp OR bc TO;0wd OF;0IMAGE OF;0MULTIMAP;0HERMITIAN CONJUGATE MATRIX;
   0INTERCALATE;0XOR;0NAND;0NOR;0i dw a ARC;1bl;0N-ARY nj g;2OR;1kx;1lc;0fh es;0r es;0dk es;0rm ai;0BOWTIE;
   0k qb FACTOR wj nq;0i qb FACTOR wj nq;0k wj nq;0i wj nq;0ch bg fy;0hw nj OR;2g;0p id;1ir;1kx;1lc;0PITCHFORK;
   0bc g si TO;0dh a r;0dj a r;0hs MUCH dh;2dj;0dh bc TO OR dj;0dj bc TO OR dh;0bc TO OR dh;3dj;3np;3nu;
   0DOES di PRECEDE OR bc;2SUCCEED OR bc;0di au IMAGE OF OR bc TO;2wd OF OR bc TO;0au IMAGE OF OR di bc TO;
   1wd OF OR di bc TO;0dh BUT di ly TO;0dj BUT di ly TO;0np BUT di ly TO;0nu BUT di ly TO;0di qb sp OF;
   0DOES di CONTAIN AS qb sp;0di qb sp OF OR bc TO;0DOES di CONTAIN AS qb sp OR bc;0af rp;0MIDLINE bd rp;
   0UP i ep rp;0an i ep rp;0ps OF a bz bd y;3af ak AT fs OF bd y;0c ps OF a af ak AT fs OF bd y;0ps OF a r j;3nn;
   0c ps OF a nn;0ps OF a ii;3l bd STROKES;0rj a bz bd y;2af ak AT fs OF bd y;0c rj a af ak AT fs OF bd y;0rj a nn;
   0c rj a nn;0Z se BAG MEMBERSHIP;0DIAMETER f;0ELECTRIC h;0HOUSE;0UP cp;0an cp;0PROJECTIVE;0PERSPECTIVE;0WAVY cj;
   0k qn;0i qn;0k pt;0i pt;0gk i CROP;1k CROP;0fa i CROP;1k CROP;0ch di f;0au nk;0ARC;0SEGMENT;0SECTOR;
   0ot RECORDER;0POSITION rv;0VIEWDATA au;0PLACE OF INTEREST f;0by di f;0WATCH;0xf;0fa k gn;1i gn;0gk k gn;1i gn;
   0fa ap jw;0gk ap jw;0FROWN;0SMILE;0UP cp kt l bd BARS;0OPTION KEY;0ERASE TO fp i;0X IN A to BOX;0vx;0jn dw as;
   0il dw as;0ERASE TO fp k;0BENZENE bi;0CYLINDRICITY;0ALL AROUND-PROFILE;0SYMMETRY;0TOTAL RUNOUT;
   0DIMENSION ORIGIN;0CONICAL TAPER;0SLOPE;0COUNTERBORE;0COUNTERSINK;0APL FUNCTIONAL z I-BEAM;3SQUISH mx;3mx bc;
   4DIVIDE;4fh;4JOT;4av;3av STILE;4JOT;3ls ak;3ta ak;3mx ls;4ta;4dh;4dj;3am VANE;3ac VANE;3mx am h;4ac h;3av ta;
   3an ge ii;3jm STILE;3mx an pp;4jm;3an ge JOT;3bq VANE;3mx bq h;3UP ge nn;3DEL STILE;3mx UP pp;4DEL;3UP ge JOT;
   3bj VANE;3mx bj h;3QUOTE ii;3jm ii;3fh ii;3JOT ii;3av ii;3UP SHOE JOT;3QUOTE mx;3av dk;3mx gm;3UP ge ci;3DEL ci;
   3dk ci;3JOT ci;3av ci;3an SHOE STILE;3k SHOE STILE;3bg ci;3dj ci;3de ak;3DEL bg;3ZILDE;3STILE bg;3oq ii;
   3mx di bc;4hj;3an pp bg;3UP pp bg;3gt;3RHO;3fo;3gg ii;3hx ii;3gt ii;3fo ii;3gg;0di nz q;0i dw a bj sy h;
   0SHOULDERED bw BOX;0BELL z;0af cj a ae r;0INSERTION z;0CONTINUOUS UNDERLINE z;0DISCONTINUOUS UNDERLINE z;
   0EMPHASIS z;0COMPOSITION z;0v au a dm af cj;0ENTER z;0ALTERNATIVE KEY z;0HELM z;0ds bd ak a NOTCH;1bl an;
   0BROKEN av a NORTHWEST h;0UNDO z;0MONOSTABLE z;0HYSTERESIS z;0OPEN-CIRCUIT-OUTPUT H-TYPE z;1L-TYPE z;
   0PASSIVE-PULL-DOWN-OUTPUT z;0PASSIVE-PULL-UP-OUTPUT z;0DIRECT CURRENT z d l;0SOFTWARE-FUNCTION z;
   0APL FUNCTIONAL z mx;0DECIMAL gv KEY z;0PREVIOUS PAGE;0NEXT PAGE;0PRINT SCREEN z;0CLEAR SCREEN z;0k ex bv x;2rr;
   2bk x;0i ex bv x;2rr;2bk x;0k au as bv gn;3rr;3bk gn;0i au as bv gn;3rr;3bk gn;0k hw as bv x;3ae PIECE;3bk x;
   0hw as rr;0i hw as bv x;3ae PIECE;3bk x;0jw rr;0bd cj rr;0bv k OR bk i hw as in;1i OR bk k hw as in;
   0SUMMATION fa;1gk;0fa au as;0gk au as;3ay fa au as;0RADICAL z gk;0k af BOX cj;0i af BOX cj;0bd SCAN LINE-1;
   2LINE-3;2LINE-7;2LINE-9;0DENTISTRY z be af g fa i;5gk i;4a av;3an g bd a av;3UP g bd a av;3af a bl;
   3an g bd a bl;3UP g bd a bl;3af g jj;3an g bd a jj;3UP g bd a jj;3an g bd;3UP g bd;3af g fa k;5gk k;0au FOOT;
   0RETURN z;0EJECT z;0af cj rr;0METRICAL dn;1bz ay ec;1ec ay bz;1bz ay l SHORTS;1l SHORTS ay bz;3JOINED;1TRISEME;
   1TETRASEME;1PENTASEME;0mu GROUND;0FUSE;0fa ex;0gk ex;0fa hw as;0gk hw as;0fa kq io as;0gk kq io as;0v TRAPEZIUM;
   0BENZENE bi a av;0STRAIGHTNESS;0FLATNESS;0AC CURRENT;0ELECTRICAL kx;0DECIMAL EXPONENT z;0t il p bl;1jn p bl;
   1nb p bl;1oa p bl;1il p bl a af ak;1jn p bl a af ak;1il bl a p af ak;0ALARM CLOCK;0STOPWATCH;0TIMER CLOCK;
   0xf a FLOWING SAND;0t bp jn bl;2il bl;2nb bl;2oa bl;0p af ak;0t au fk cn;1av fk RECORD;0POWER z;1ON-OFF z;1ON z;
   1SLEEP z;0OBSERVER EYE z;0z fk NULL;2START OF HEADING;4TEXT;2fs OF TEXT;4yo;2ENQUIRY;2wo;2BELL;2BACKSPACE;
   2bd or;2cj FEED;2af or;2d FEED;2CARRIAGE RETURN;2SHIFT OUT;3IN;2DATA LINK ESCAPE;2DEVICE qp m;4l;4s;4w;2ln wo;
   2SYNCHRONOUS IDLE;2fs OF yo dg;2CANCEL;2fs OF bp;2SUBSTITUTE;2ESCAPE;2FILE gv;2GROUP gv;2RECORD gv;2UNIT gv;2jf;
   2DELETE;0BLANK z;0bw BOX;0z fk NEWLINE;2DELETE d l;2SUBSTITUTE d l;@2440 0OCR x;1CHAIR;1FORK;1cv FORK;
   1BELT BUCKLE;1BOW TIE;1BRANCH BANK IDENTIFICATION;1AMOUNT OF nz;1ew;1CUSTOMER ACCOUNT cz;1p ta;@2460 0ds bh m;
   2l;2s;2w;2aa;2ag;2ao;2ah;2ar;1cz ca;2ob;2na;2st;2rt;2pa;2qg;2sm;2qs;2sd;2fd;0xt bh m;2l;2s;2w;2aa;2ag;2ao;2ah;
   2ar;1cz ca;2ob;2na;2st;2rt;2pa;2qg;2sm;2qs;2sd;2fd;0bh m eb cn;1l eb cn;1s eb cn;1w eb cn;1aa eb cn;1ag eb cn;
   1ao eb cn;1ah eb cn;1ar eb cn;0cz ca eb cn;1ob eb cn;1na eb cn;1st eb cn;1rt eb cn;1pa eb cn;1qg eb cn;
   1sm eb cn;1qs eb cn;1sd eb cn;1fd eb cn;0xt dz c b A;4B;4C;4D;4E;4F;4G;4H;4I;4J;4K;4L;4M;4N;4O;4P;4Q;4R;4S;4T;
   4U;4V;4W;4X;4Y;4Z;0ds dz e b A;4B;4C;4D;4E;4F;4G;4H;4I;4J;4K;4L;4M;4N;4O;4P;4Q;4R;4S;4T;4U;4V;4W;4X;4Y;4Z;
   2c b A;4B;4C;4D;4E;4F;4G;4H;4I;4J;4K;4L;4M;4N;4O;4P;4Q;4R;4S;4T;4U;4V;4W;4X;4Y;4Z;1bh bt;0ln ds cz ob;3na;3st;
   3rt;3pa;3qg;3sm;3qs;3sd;3fd;0p ds bh m;3l;3s;3w;3aa;3ag;3ao;3ah;3ar;2cz ca;0ln ds bh bt;0BOX DRAWINGS be bd;
   2ad bd;2be af;2ad af;2be em ew bd;2ad em ew bd;2be em ew af;2ad em ew af;2be pf ew bd;2ad pf ew bd;2be pf ew af;
   2ad pf ew af;2be an g i;2an be g i ad;3ad g i be;2ad an g i;2be an g k;2an be g k ad;3ad g k be;2ad an g k;
   2be UP g i;2UP be g i ad;3ad g i be;2ad UP g i;2be UP g k;2UP be g k ad;3ad g k be;2ad UP g k;2be af g i;
   2af be g i ad;2UP ad g i an be;2an ad g i UP be;2af ad g i be;2an be g i UP ad;2UP be g i an ad;2ad af g i;
   2be af g k;2af be g k ad;2UP ad g k an be;2an ad g k UP be;2af ad g k be;2an be g k UP ad;2UP be g k an ad;
   2ad af g k;2be an g bd;2k ad g i an be;2i ad g k an be;2an be g bd ad;3ad g bd be;2i be g k an ad;
   2k be g i an ad;2ad an g bd;2be UP g bd;2k ad g i UP be;2i ad g k UP be;2UP be g bd ad;3ad g bd be;
   2i be g k UP ad;2k be g i UP ad;2ad UP g bd;2be af g bd;2k ad g i af be;2i ad g k af be;2af be g bd ad;
   2UP ad g an bd be;2an ad g UP bd be;2af ad g bd be;2k UP ad g i an be;2i UP ad g k an be;2k an ad g i UP be;
   2i an ad g k UP be;2an be g UP bd ad;2UP be g an bd ad;2i be g k af ad;2k be g i af ad;2ad af g bd;2be p ew bd;
   2ad p ew bd;2be p ew af;2ad p ew af;2p bd;3af;2an cm g i p;3p g i cm;2p an g i;2an cm g k p;3p g k cm;2p an g k;
   2UP cm g i p;3p g i cm;2p UP g i;2UP cm g k p;3p g k cm;2p UP g k;2af cm g i p;3p g i cm;2p af g i;2af cm g k p;
   3p g k cm;2p af g k;2an cm g bd p;3p g bd cm;2p an g bd;2UP cm g bd p;3p g bd cm;2p UP g bd;2af cm g bd p;
   3p g bd cm;2p af g bd;2be ARC an g i;6k;4UP g k;6i;3ep bv i TO bk k;5k TO bk i;4el;3k;3UP;3i;3an;2ad k;3UP;3i;
   3an;2be k g ad i;3UP g ad an;2ad k g be i;3UP g be an;0bv ap dg;0bk m hu dg;2gj dg;1s lw dg;1ap dg;1aa lw dg;
   1s mh dg;1ao lw dg;0eb dg;0k ao lw dg;1s mh dg;1aa lw dg;1ap dg;1s lw dg;1m gj dg;2hu dg;0i ap dg;0be mj;0bp mj;
   0DARK mj;0bv m hu dg;0i m hu dg;0mg bk k;2i;1bv k;3g bk k g bk i;5i;4bv i g bk k;8i;2i;3g bk k;6g bk i;0t au;
   0v au;2a qd ua;2tc t c au;0au a bd mv;2af mv;2ORTHOGONAL CROSSHATCH mv;2bv k TO bk i mv;3i TO bk k mv;
   2ep CROSSHATCH mv;0t c au;0v c au;0t to;0v to;0t af to;0v af to;0t PARALLELOGRAM;0v PARALLELOGRAM;0t nb bl;
   0v nb bl;0t nb c bl;0v nb c bl;0t il bl;0v il bl;0t il c bl;0v il c bl;0t il POINTER;0v il POINTER;0t oa bl;
   0v oa bl;0t oa c bl;0v oa c bl;0t jn bl;0v jn bl;0t jn c bl;0v jn c bl;0t jn POINTER;0v jn POINTER;0t fh;0v fh;
   2tc t c fh;0FISHEYE;0nk;0v av;0fm av;0av a af mv;0BULLSEYE;0t av;0av a k ap t;2i ap t;2bk ap t;2bv ap t;3i mg t;
   2ALL BUT bv k mg t;0k ap t av;0i ap t av;0pv mo;1v av;0bv ap pv v av;0bk ap pv v av;0bv k mg vj ARC;
   1i mg vj ARC;0bk i mg vj ARC;1k mg vj ARC;0bv ap av;0bk ap av;0t bk i bl;2k bl;1bv k bl;2i bl;0v mo;
   0au a k ap t;2i ap t;2bv k ep ap t;2bk i ep ap t;0v au a af BISECTING cj;1nb bl a r;0nb bl a k ap t;3i ap t;
   0cq av;0v au a bv k mg;3bk k mg;4i mg;3bv i mg;1av a bv k mg;3bk k mg;4i mg;3bv i mg;0bv k bl;1i bl;0bk k bl;
   0v bp au;0t bp au;0v bp c au;0t bp c au;0bk i bl;0t SUN a RAYS;0CLOUD;0wm;0SNOWMAN;0COMET;0t dk;0v dk;0xn;
   0THUNDERSTORM;0SUN;0ASCENDING NODE;0DESCENDING NODE;0CONJUNCTION;0OPPOSITION;0t ot;0v ot;0tb BOX;2a nz;3X;0pg;
   0wm a RAIN DROPS;0HOT BEVERAGE;0v SHOGI PIECE;0t SHOGI PIECE;0SHAMROCK;0ch db FLORAL hf mo;0t k cy bb;1i cy bb;
   0v k cy bb;1UP cy bb;1i cy bb;1an cy bb;0SKULL g CROSSBONES;0CAUTION f;0RADIOACTIVE f;0BIOHAZARD f;0CADUCEUS;
   0ANKH;0ORTHODOX el;0CHI RHO;0el OF LORRAINE;2JERUSALEM;0dk g ub;0FARSI z;0ADI SHAKTI;0HAMMER g SICKLE;0PEACE z;
   0YIN YANG;0TRIGRAM fk HEAVEN;2LAKE;2FIRE;2THUNDER;2WIND;2nx;2sb;2mu;0WHEEL OF DHARMA;0v FROWNING at;1kz at;
   0t kz at;0v SUN a RAYS;0FIRST gj hz;0LAST gj hz;0MERCURY;0FEMALE f;0mu;0MALE f;0JUPITER;0SATURN;0URANUS;
   0NEPTUNE;0PLUTO;0ARIES;0TAURUS;0GEMINI;0CANCER;0LEO;0VIRGO;0LIBRA;0SCORPIUS;0SAGITTARIUS;0CAPRICORN;0AQUARIUS;
   0PISCES;0v gl kk;2lp;2ROOK;2ny;2ho;2PAWN;0t gl kk;2lp;2ROOK;2ny;2ho;2PAWN;1SPADE SUIT;0v hf SUIT;1fh SUIT;
   0t CLUB SUIT;0v SPADE SUIT;0t hf SUIT;1fh SUIT;0v CLUB SUIT;0HOT SPRINGS;0gj jo;0hu jo;0BEAMED hu NOTES;
   1ux NOTES;0MUSIC FLAT f;1NATURAL f;1SHARP f;0dv SYRIAC el;0da SYRIAC el;0UNIVERSAL RECYCLING z;
   0RECYCLING z fk TYPE-1 tm;3TYPE-2 tm;3TYPE-3 tm;3TYPE-4 tm;3TYPE-5 tm;3TYPE-6 tm;3TYPE-7 tm;3GENERIC MATERIALS;
   0t UNIVERSAL RECYCLING z;0RECYCLED PAPER z;0PARTIALLY-RECYCLED PAPER z;0PERMANENT PAPER f;0WHEELCHAIR z;
   0DIE FACE-1;+5;0v av a r i;3l aw;0t av a v r i;3l v aw;0uu fk YANG;2YIN;0DIGRAM fk GREATER YANG;2LESSER YIN;
   3YANG;2GREATER YIN;0v FLAG;0t FLAG;0HAMMER g PICK;0ANCHOR;0nf SWORDS;0STAFF OF AESCULAPIUS;0SCALES;0ALEMBIC;
   0FLOWER;0GEAR;0STAFF OF HERMES;0ATOM z;0FLEUR-DE-LIS;0tl v dk;0s LINES CONVERGING i;3k;0WARNING f;0cf VOLTAGE f;
   0DOUBLED FEMALE f;1MALE f;0INTERLOCKED FEMALE g MALE f;0MALE g FEMALE f;1a y f;3g MALE g FEMALE f;
   0af MALE a y f;0bd MALE a y f;0bp v av;1t av;1c v av;0MARRIAGE z;0DIVORCE z;0UNMARRIED PARTNERSHIP z;0COFFIN;
   0FUNERAL URN;0NEUTER;0CERES;0PALLAS;0JUNO;0VESTA;0CHIRON;0t hz LILITH;0SEXTILE;0SEMISEXTILE;0QUINCUNX;
   0SESQUIQUADRATE;0SOCCER BALL;0BASEBALL;0ga KEY;0v DRAUGHTS MAN;2kk;0t DRAUGHTS MAN;2kk;0SNOWMAN WITHOUT SNOW;
   0SUN BEHIND CLOUD;0RAIN;0t SNOWMAN;0THUNDER CLOUD g RAIN;0by v SHOGI PIECE;1t SHOGI PIECE;0v fh IN au;0gp LANES;
   0DISABLED CAR;0OPHIUCHUS;0PICK;0CAR SLIDING;0HELMET a v el;0ds gp LANES;0CHAINS;0NO ENTRY;
   0is ONE-WAY k WAY TRAFFIC;0t TWO-WAY k WAY TRAFFIC;0v TWO-WAY k WAY TRAFFIC;0t k LANE MERGE;0v k LANE MERGE;
   0DRIVE SLOW f;0ad v oa bl;0k fx ENTRY;0ga pg;0te ep IN v av IN t au;0t TRUCK;0RESTRICTED k ENTRY-1;+1;
   0ASTRONOMICAL z fk URANUS;0ad av a y g l aw j;0xu;0RIGHT-HANDED INTERLACED xu;0LEFT-HANDED INTERLACED xu;0cv xu;
   0t el ON SHIELD;0SHINTO SHRINE;0CHURCH;0CASTLE;0HISTORIC SITE;0GEAR WITHOUT HUB;1a HANDLES;0MAP z fk LIGHTHOUSE;
   0sb;0wm ON GROUND;0FOUNTAIN;0FLAG IN HOLE;0FERRY;0SAILBOAT;0au w ua;0SKIER;0ICE SKATE;0lo a BALL;0TENT;
   0th BANK z;0HEADSTONE GRAVEYARD z;0FUEL PUMP;0CUP ON t au;0v FLAG a bd ae t STRIPE;0t SAFETY uv;0bv BLADE uv;
   0t uv;0bk BLADE uv;0v uv;1ad nz q;0ot LOCATION f;0TAPE DRIVE;0sz;0qt;0ia FIST;1gr;0VICTORY gr;0WRITING gr;
   0bk i PENCIL;0PENCIL;0bv i PENCIL;0v NIB;0t NIB;0nz q;0ad nz q;0pd X;0ad pd X;0tb X;0ad tb X;0tl if el;
   0ad if el;0bw dm el;0ad bw dm el;0dz el;0ns v dz el;0tl dz el;0MALTESE el;0dk OF DAVID;0w tt ek;1yr ek;
   0ad w yr ek;0w CLUB-SPOKED ek;0t w fz dk;0v w fz dk;0SPARKLES;0STRESS tl v dk;0ds v dk;0bw dm t dk;0t dm v dk;
   0tl t dk;0ad tl t dk;0qz dk;0ns v dk;0ad ek;0bw dm ek;0ah kp ek;1fz t dk;2qz dk;0ag fz t dk;
   0ah fz RECTILINEAR t dk;0ad ah fz RECTILINEAR t dk;0na fz t dk;0qg fz ek;0tt ek;0bw dm tt ek;0ad tt ek;
   0ag PETALLED t g v FLORETTE;0t FLORETTE;0v FLORETTE;0ah PETALLED tl t FLORETTE;0ds bw dm ah fz dk;0ad tt qz ek;
   0SNOWFLAKE;0TIGHT TRIFOLIATE SNOWFLAKE;0ad CHEVRON SNOWFLAKE;0SPARKLE;0ad SPARKLE;0yr ek;0ah tt PROPELLER ek;
   0ad ah tt PROPELLER ek;0el q;0ns v av;0ln ga el q;0bk i DROP-SHADOWED v au;0bv i DROP-SHADOWED v au;
   0bk i ns v au;0bv i ns v au;0t hj q ea;0v hj q ea;1hy q ea;0t fh km v X;0ad hy q z;0be af ak;0bp af ak;
   0ad af ak;1cm by de ha q ea;2de ha q ea;1p by de ha q ea;2de ha q ea;1bn cm de ha q ea;2p de ha q ea;
   0oy STEM we f ea;0ad hy q ea;1hf hy q ea;1t hf;0db ad t hf mo;0FLORAL hf;0db FLORAL hf mo;0bp k ex ea;1i ex ea;
   1xc k ex ea;2i ex ea;1jn dw as ea;1il dw as ea;0ad jn dw ha q ea;1il dw ha q ea;1jn dw as ea;1il dw as ea;
   0be k kq io as ea;1i kq io as ea;0bp k hw as ea;1i hw as ea;0DINGBAT ln ds bh m;4l;4s;4w;4aa;4ag;4ao;4ah;4ar;
   3cz ca;1ds ix bh m;4l;4s;4w;4aa;4ag;4ao;4ah;4ar;3cz ca;1ln ds ix bh m;5l;5s;5w;5aa;5ag;5ao;5ah;5ar;4cz ca;
   0ad WIDE-HEADED ac h;1al f;1km f;1rm f;1ev da h;1ac h;1ei da h;0DRAFTING no ac h;0ad ROUND-TIPPED ac h;0co ac h;
   0ad co ac h;0ng co ac h;0ad ng co ac h;0t ac h;0THREE-D TOP-LIGHTED ac cp;1BOTTOM-LIGHTED ac cp;0t ac cp;
   0ad t oy bj g ac h;3bq g ac h;0SQUAT t ac h;0ad CONCAVE-POINTED t ac h;0zj v ac h;0LEFT-SHADED v ac h;
   0BACK-TILTED ns v ac h;0yv ns v ac h;0ad bk ye v ac h;1bv ye v ac h;0qx bk ye v ac h;0hw kl;0qx bv ye v ac h;
   0ds ad v ac h;0WHITE-FEATHERED ac h;0BLACK-FEATHERED ev da h;1ac h;1ei da h;0ad BLACK-FEATHERED ev da h;2ac h;
   2ei da h;0TEARDROP-BARBED ac h;0ad TEARDROP-SHANKED ac h;0WEDGE-TAILED ac h;0ad WEDGE-TAILED ac h;
   0OPEN-OUTLINED ac h;0p hw kl;0s DIMENSIONAL dw;0v bl tc c v bl;0zc;0bw id;1ir;0k S-SHAPED BAG ww;
   0i S-SHAPED BAG ww;0OR a r jv;0jc ip PRECEDING id;0ir PRECEDING ip;0af ak a bd y;0us nr ep;0bz rm;0us te ep;
   0ga nj g;2OR;0v fh a rg r;0g a r;0ps OF OPENING bq;0bk i gn a r;0bv k gn a r;0k OUTER JOIN;0i OUTER JOIN;
   0eb OUTER JOIN;0cq UP ge;1an ge;0k g i p sw;3ge;1MULTIMAP;0bz i ge;1k ge;0UP ge a av j;0nk DIVIDED BY bd RULE;
   0v CONCAVE-SIDED fh;3a am TICK;4ac TICK;1au a am TICK;3ac TICK;0us k v au as;1i v au as;1k dw as;1i dw as;
   1k p dw as;1i p dw as;1k v kq io as;1i v kq io as;1k xc ex;1i xc ex;0bq pf h;0bj pf h;0kb GAPPED av h;
   0ne GAPPED av h;0i h a ds al;0bz am h;1ac h;1k i h;1am p h;1ac p h;1k i p h;1am h gq ak;1ac h gq ak;
   1am p h gq ak;1ac p h gq ak;2SQUIGGLE h;0BRAILLE PATTERN BLANK;2DOTS-1;+1;2DOTS-12;2DOTS-3;2DOTS-13;2DOTS-23;
   2DOTS-123;2DOTS-4;2DOTS-14;2DOTS-24;2DOTS-124;2DOTS-34;2DOTS-134;2DOTS-234;2DOTS-1234;2DOTS-5;2DOTS-15;2DOTS-25;
   2DOTS-125;2DOTS-35;2DOTS-135;2DOTS-235;2DOTS-1235;2DOTS-45;2DOTS-145;2DOTS-245;2DOTS-1245;2DOTS-345;2DOTS-1345;
   2DOTS-2345;2DOTS-12345;2DOTS-6;2DOTS-16;2DOTS-26;2DOTS-126;2DOTS-36;2DOTS-136;2DOTS-236;2DOTS-1236;2DOTS-46;
   2DOTS-146;2DOTS-246;2DOTS-1246;2DOTS-346;2DOTS-1346;2DOTS-2346;2DOTS-12346;2DOTS-56;2DOTS-156;2DOTS-256;
   2DOTS-1256;2DOTS-356;2DOTS-1356;2DOTS-2356;2DOTS-12356;2DOTS-456;2DOTS-1456;2DOTS-2456;2DOTS-12456;2DOTS-3456;
   2DOTS-13456;2DOTS-23456;2DOTS-123456;2DOTS-7;2DOTS-17;2DOTS-27;2DOTS-127;2DOTS-37;2DOTS-137;2DOTS-237;
   2DOTS-1237;2DOTS-47;2DOTS-147;2DOTS-247;2DOTS-1247;2DOTS-347;2DOTS-1347;2DOTS-2347;2DOTS-12347;2DOTS-57;
   2DOTS-157;2DOTS-257;2DOTS-1257;2DOTS-357;2DOTS-1357;2DOTS-2357;2DOTS-12357;2DOTS-457;2DOTS-1457;2DOTS-2457;
   2DOTS-12457;2DOTS-3457;2DOTS-13457;2DOTS-23457;2DOTS-123457;2DOTS-67;2DOTS-167;2DOTS-267;2DOTS-1267;2DOTS-367;
   2DOTS-1367;2DOTS-2367;2DOTS-12367;2DOTS-467;2DOTS-1467;2DOTS-2467;2DOTS-12467;2DOTS-3467;2DOTS-13467;
   2DOTS-23467;2DOTS-123467;2DOTS-567;2DOTS-1567;2DOTS-2567;2DOTS-12567;2DOTS-3567;2DOTS-13567;2DOTS-23567;
   2DOTS-123567;2DOTS-4567;2DOTS-14567;2DOTS-24567;2DOTS-124567;2DOTS-34567;2DOTS-134567;2DOTS-234567;
   2DOTS-1234567;2DOTS-8;2DOTS-18;2DOTS-28;2DOTS-128;2DOTS-38;2DOTS-138;2DOTS-238;2DOTS-1238;2DOTS-48;2DOTS-148;
   2DOTS-248;2DOTS-1248;2DOTS-348;2DOTS-1348;2DOTS-2348;2DOTS-12348;2DOTS-58;2DOTS-158;2DOTS-258;2DOTS-1258;
   2DOTS-358;2DOTS-1358;2DOTS-2358;2DOTS-12358;2DOTS-458;2DOTS-1458;2DOTS-2458;2DOTS-12458;2DOTS-3458;2DOTS-13458;
   2DOTS-23458;2DOTS-123458;2DOTS-68;2DOTS-168;2DOTS-268;2DOTS-1268;2DOTS-368;2DOTS-1368;2DOTS-2368;2DOTS-12368;
   2DOTS-468;2DOTS-1468;2DOTS-2468;2DOTS-12468;2DOTS-3468;2DOTS-13468;2DOTS-23468;2DOTS-123468;2DOTS-568;
   2DOTS-1568;2DOTS-2568;2DOTS-12568;2DOTS-3568;2DOTS-13568;2DOTS-23568;2DOTS-123568;2DOTS-4568;2DOTS-14568;
   2DOTS-24568;2DOTS-124568;2DOTS-34568;2DOTS-134568;2DOTS-234568;2DOTS-1234568;2DOTS-78;2DOTS-178;2DOTS-278;
   2DOTS-1278;2DOTS-378;2DOTS-1378;2DOTS-2378;2DOTS-12378;2DOTS-478;2DOTS-1478;2DOTS-2478;2DOTS-12478;2DOTS-3478;
   2DOTS-13478;2DOTS-23478;2DOTS-123478;2DOTS-578;2DOTS-1578;2DOTS-2578;2DOTS-12578;2DOTS-3578;2DOTS-13578;
   2DOTS-23578;2DOTS-123578;2DOTS-4578;2DOTS-14578;2DOTS-24578;2DOTS-124578;2DOTS-34578;2DOTS-134578;2DOTS-234578;
   2DOTS-1234578;2DOTS-678;2DOTS-1678;2DOTS-2678;2DOTS-12678;2DOTS-3678;2DOTS-13678;2DOTS-23678;2DOTS-123678;
   2DOTS-4678;2DOTS-14678;2DOTS-24678;2DOTS-124678;2DOTS-34678;2DOTS-134678;2DOTS-234678;2DOTS-1234678;2DOTS-5678;
   2DOTS-15678;2DOTS-25678;2DOTS-125678;2DOTS-35678;2DOTS-135678;2DOTS-235678;2DOTS-1235678;2DOTS-45678;
   2DOTS-145678;2DOTS-245678;2DOTS-1245678;2DOTS-345678;2DOTS-1345678;2DOTS-2345678;2DOTS-12345678;0ac pj h a af y;
   4p af y;0am p h a af y;0ac p h a af y;0k i p h a af y;0ac pj h gq ak;0am p h gq ak;0ac p h gq ak;0bj h a bd y;
   0bq h a bd y;1em h;0bj em h;0am p ew h;0ac p ew h;0am em ew h;0ac em ew h;1pj em ew h;1h a fm STEM;0bq h TO ak;
   0bj h TO ak;0ac h a dr a af y;5p af y;1pj h a dr;5a af y;6p af y;0am wq;0ac wq;0am p wq;0ac p wq;0am h TO t fh;
   0ac h TO t fh;0am h gq ak TO t fh;0ac h gq ak TO t fh;0ei dv g ev da h;1da g ev dv h;1dv h a x;1da h a x;
   0ev da h a x;1dv h a x;0ei dv h g ei da h;1da h g ev da h;0ev da h g ev dv h;1dv h g ei dv h;0nr ep gp te ep;
   0te ep gp nr ep;0ev da h gp ei da h;0ei da h gp ev da h;0te ep gp ei da h;0nr ep gp ev da h;0ei da h gp ei dv h;
   1dv h gp ei da h;0jj h cy DIRECTLY i;0h cy ac THEN CURVING bq;5bj;2bj THEN CURVING am;5ac;0RIGHT-SIDE ARC ne h;
   0LEFT-SIDE ARC kb h;0fa ARC kb h;0gk ARC kb h;0fa ARC ne h a km;2kb h a al;0bk i zk ne h;1k zk kb h;0kb fx av h;
   0ne fx av h;0ac h j ec am h;0am h j ec ac h;0ec ac h j am h;0ac h a al n;0am h a al n;0ac h mz X;0k i h mz c av;
   0bq pj h gq c av;0k bm UP i bm an do;2an i bm UP do;0UP bm i an bm k do;2k an bm i do;0k bm UP i bm UP do;
   0UP bm i an bm i do;0k bm an i bm an do;0UP bm k an bm k do;0am do a bm UP TO ak;0ac do a bm UP TO ak;
   0bq do a bm i TO ak;0bj do a bm i TO ak;0am do a bm an TO ak;0ac do a bm an TO ak;0bq do a bm k TO ak;
   0bj do a bm k TO ak;0am do a bm UP gq ak;0ac do a bm UP gq ak;0bq do a bm i gq ak;0bj do a bm i gq ak;
   0am do a bm an gq ak;0ac do a bm an gq ak;0bq do a bm k gq ak;0bj do a bm k gq ak;
   0am do a bm UP j am do a bm an;0bq do a bm k pn bq do a bm i;0ac do a bm UP j ac do a bm an;
   0bj do a bm k pn bj do a bm i;0am do a bm UP j ac do a bm UP;4an j ac do a bm an;0ac do a bm UP j am do a bm UP;
   4an j am do a bm an;0am do a bm UP j bz ew;4an n bz ew;0ac do a bm UP j bz ew;4an n bz ew;
   0bq do a bm k pn bj do a bm i;0bj do a bm k pn bq do a bm i;0i p h a qd ju;0fy f j ac h;0bg es j ac h;
   0am h j bg es;0ac h j bg es;3ld bc TO;0dh j am h;0am h mz dh;0dj j ac h;0id j ac h;0am h mz id;0ir j am h;
   0k FISH dr;0i FISH dr;0UP FISH dr;0an FISH dr;0em af ak ww;0Z se SPOT;2TYPE gm;0k v hw as;0i v hw as;0k v ex;
   0i v ex;0Z se k IMAGE as;2i IMAGE as;2k BINDING as;2i BINDING as;0k au as a ii;0i au as a ii;
   0k au as a TICK IN fa gn;0i au as a TICK IN gk gn;0k au as a TICK IN gk gn;0i au as a TICK IN fa gn;
   0k dw as a r;0i dw as a r;0k ARC dh as;0i ARC dj as;0p k ARC dj as;1i ARC dh as;0k t kq io as;0i t kq io as;
   0fm FENCE;0af sy cj;0wa dw OPENING k;0i dw ji a au;0wa i dw a r;0dw a S jv;0bo dw;0SPHERICAL dw OPENING k;3UP;
   0by dw;0ch dw;0dw a ii;0ch dw a ii;0me dw OPENING UP;3an;0wa dw a bw ARM ENDING IN h cy UP g i;9UP g k;9an g i;
   9an g k;9i g UP;9k g UP;9i g an;9k g an;0ch EMPTY SET;0EMPTY SET a nn;3c av j;3i h j;3k h j;0av a bd ak;
   0ds af ak;1si;1jc ip;1zc;0av DIVIDED BY bd ak g fa ap DIVIDED BY af ak;1a SUPERIMPOSED X;
   0ds ANTICLOCKWISE-ROTATED rm f;0UP h mz av;0ds v mo;1mo;1dh;1dj;0av a c av TO fp i;2l bd STROKES TO fp i;
   0ga nr ep ls;1te ep ls;1ek;1c av;1au;0l JOINED SQUARES;0bl a r j;2ii;0S IN bl;0bl a SERIFS AT gk;0i bl j k bl;
   0k bl pn af ak;0af ak pn i bl;0BOWTIE a k ap t;2i ap t;0t BOWTIE;0ai a k ap t;2i ap t;0v xf;0t xf;
   0k WIGGLY FENCE;0i WIGGLY FENCE;0k p WIGGLY FENCE;0i p WIGGLY FENCE;0INCOMPLETE um;0TIE ay um;
   0um NEGATED a af ak;0DOUBLE-ENDED MULTIMAP;0au a CONTOURED OUTLINE;0INCREASES AS;0SHUFFLE nq;0fy f g je si;
   5a bg j;0xh TO g je si;0GLEICH STARK;0THERMODYNAMIC;0oa bl a k ap t;3i ap t;0t fh a an h;1nk;0v av a an h;
   0t av a an h;0ERROR-BARRED v au;1t au;1v fh;1t fh;1v av;1t av;0RULE-DELAYED;0jc ip es;0ip a nn;0jc ip a bd y;
   0BIG ip;1jc ip;0p al;0em al;0jn oy dw as;0il oy dw as;0TINY;0MINY;0N-ARY ds r es;2al es;2ai es;1lc es a r;4al;
   1au kx es;2lc es;0l nj g es;2OR es;0N-ARY ai es;0MODULO l SUM;0SUMMATION a jw;0pf jw es;0FINITE PART jw;
   0jw a p y;1AVERAGE a ls;0CIRCULATION FUNCTION;0kb INTEGRATION;0cj INTEGRATION a RECTANGULAR PATH AROUND POLE;
   3zk PATH AROUND POLE;2di INCLUDING fp POLE;0jw AROUND A no es;0QUATERNION jw es;0jw a am h a x;2ai f;2kx;2lc;
   2nn;2ii;0JOIN;0cq k bl es;0Z se SCHEMA COMPOSITION;3PIPING;3PROJECTION;0al f a c av j;3cb fi j;3bg j;3r n;3bg n;
   3tr l;3t bl;0km f a de j;3r n;3te aw;3nr aw;0al f IN k ap av;3i ap av;0VECTOR OR el nq;0pd f a r j;3ii;
   0wj nq a gk fx;0SMASH nq;0pd f IN k ap av;3i ap av;0ds pd f a cb fi;0pd f IN p av;0ds rm f;0al f IN bl;
   0km f IN bl;0pd f IN bl;0INTERIOR nq;0RIGHTHAND INTERIOR nq;0Z se RELATIONAL COMPOSITION;
   0AMALGAMATION OR COPRODUCT;0kx a r;0lc a km f;2nn;0kx a nn;2nj g;0lc a nj OR;1j kx;0kx j lc;0lc j ak j kx;
   0kx j ak j lc;0lc pn g JOINED a lc;0kx pn g JOINED a kx;0fx lc a SERIFS;1kx a SERIFS;0p au kx;2lc;
   0fx lc a SERIFS g SMASH nq;0nj g a r j;1OR a r j;0p nj g;2OR;0l INTERSECTING nj g;3OR;0SLOPING cq OR;2g;
   0nj OR OVERLAPPING nj g;1g a ae STEM;1OR a ae STEM;1g a bd ew;1OR a bd ew;1g a p nn;3ii;3p ii;0c VEE a ii;
   0nj OR a p nn;4ii;0Z se DOMAIN ANTIRESTRICTION;2RANGE ANTIRESTRICTION;0fy f a r n;0xh a r j;0em bd ak a p af y;
   4em af y;0bg es a r j;3nr aw;0tq km tq;0CONGRUENT a r j;0fy a ek;0ld bc TO a cb fi;0vf bc OR bc TO;0fy f j al f;
   0al f j fy f;0fy f j bg es;0p gm bc;0l CONSECUTIVE fy SIGNS;0s CONSECUTIVE fy SIGNS;0fy f a l aw j g l aw n;
   0ly a w aw j;0dh a av jv;0dj a av jv;0dh a hj q j;0dj a hj q j;0dh OR je bc TO;0dj OR je bc TO;
   0dh OR je bc TO a r jv;0dj OR je bc TO a r jv;0dh OR je bc TO a r j;0dj OR je bc TO a r j;
   0dh OR je bc TO a r j i;0dj OR je bc TO a r j k;0dh OR wp;0dj OR wp;0dh g uw di bc TO;0dj g uw di bc TO;
   0dh g di wp;0dj g di wp;0dh j uf bc j dj;0dj j uf bc j dh;0dh j tq OR bc;0dj j tq OR bc;0dh j tq j dj;
   0dj j tq j dh;0dh j dj j uf bc;0dj j dh j uf bc;0dh j je bc j dj j je bc;0dj j je bc j dh j je bc;
   0je bc TO OR dh;4dj;4dh a r jv;4dj a r jv;0uf bc TO OR dh;4dj;1je bc TO OR dh;5dj;0tq OR dh;2dj;1j dh j fy f;
   2dj j fy f;0p NESTED dh;2dj;2dh a ii;0dj OVERLAPPING dh;1pn dh;0dh fx BY kd;0dj fx BY kd;0dh fx BY kd j je bc;
   0dj fx BY kd j je bc;0SMALLER THAN;0LARGER THAN;0SMALLER THAN OR bc TO;0LARGER THAN OR bc TO;0fy f a BUMPY j;
   0np j uw fy f;0nu j uw fy f;0np j uw di bc TO;0nu j uw di bc TO;0np j fy f;0nu j fy f;0np j di bc TO;
   0nu j di bc TO;0np j ld bc TO;0nu j ld bc TO;0np j di ld bc TO;0nu j di ld bc TO;0p np;1nu;0id a r;0ir a r;
   0id a al f n;0ir a al f n;0id a pd f n;0ir a pd f n;0id OF OR bc TO a r j;0ir OF OR bc TO a r j;0id OF j fy f;
   0ir OF j fy f;0id OF j bg es;0ir OF j bg es;0id OF j ld bc TO;0ir OF j ld bc TO;0id OF j di bc TO;
   0ir OF j di bc TO;0au k bw BOX es;1i bw BOX es;0fx id;1ir;1id OR bc TO;1ir OR bc TO;0id j ir;0ir j id;0id j id;
   0ir j ir;1pn id;2g JOINED BY ew a id;0ps OF OPENING bj;0PITCHFORK a TEE fa;0TRANSVERSAL kx;0FORKING;0NONFORKING;
   0ec k ge;1an ge;1UP ge;0zc a S;0af ak em i sw;0p af ak k sw;0af ak p k sw;0p af ak p k sw;
   0bz ew gq k MEMBER OF p af;0ec an ge a nn;1UP ge a ii;3j ec an ge;0p an ge;1UP ge;1y di f;0ch p y di f;
   0DOES di DIVIDE a ch NEGATION ls;0af cj a av j;4n;0an ge a av n;0si a bd y;2bg es;0em af ak BINARY RELATION;
   3a bd y;1gm es;1NESTED dh;2dj;0uf je dh OR bc TO;2dj OR bc TO;0em ip BINARY RELATION;0cq em af ak es;0p ip es;
   0v af ak;0N-ARY v af ak;0ei da v h;1dv v h;0ev da v h;1dv v h;0k i v h;0am t h;0bq t h;0bj t h;0ei da t h;
   1dv t h;0ev da t h;1dv t h;0k i t h;0UP an t h;0ac h a TIP bj;4bq;0am h a TIP bj;4bq;0au a fa ap t;2gk ap t;
   2bv i ep ap t;2bk k ep ap t;0fh a k ap t;2i ap t;2fa ap t;2gk ap t;0fm au;0t cq au;0v cq au;0t hs c au;
   0v hs c au;0t wf;0v wf;1HEXAGON;0t HEXAGON;0bd t HEXAGON;0t cq av;1bp fh;0v bp fh;0t bp nk;0v bp nk;0t c fh;2nk;
   0v c nk;0t bd ELLIPSE;0v bd ELLIPSE;0t af ELLIPSE;0v af ELLIPSE;0k h a c av;0s am le;0k h a ds al;
   0bz am SQUIGGLE h;0am pj h a af y;4p af y;3gq ak;2em ew h;1h a fm STEM;3dr a af y;5p af y;1pj h a dr;5a af y;
   6p af y;1h mz X;0jj h cy DIRECTLY k;0fy f j am h;0jc bg es j am h;0am h j jc ld bc TO;0ac h mz dj;3ir;0am pf h;
   0ac pf h;0jc bg es j ac h;0ac h j jc ld bc TO;0bg es j am h;0am h j ld bc TO;3jc bg es;0ac h j jc bg es;
   0bj co sy h;0ec je ei h;1BACKSLANTED ev h;0v bp dk;0t c dk;0v c dk;0t il wf;0v il wf;0ad cq av;1OVAL a OVAL jv;
   1av a av jv;2;1ds pg;0je ei h a HOOKED ju;0BACKSLANTED ev h a HOOKED dr;0je ei h a bd dr;
   0BACKSLANTED ev h a bd dr;0gw h cy bj THEN ei da;0ec gw h cy bj THEN ei da;0am co h;0bq co h;0ac co h;0bj co h;
   0k i co h;0UP an co h;0ei dv co h;1da co h;0ev da co h;1dv co h;0am co ng h;0bq co ng h;0ac co ng h;0bj co ng h;
   0ne co bw av h;0kb co bw av h;0am co h TO ak;0bq co h TO ak;0ac co h TO ak;0bj co h TO ak;
   @2B76 0ei dv co h TO ak;1da co h TO ak;0ev da co h TO ak;1dv co h TO ak;0am co h a p bd y;0bq co h a p bd y;
   0ac co h a p bd y;0bj co h a p bd y;0bd TAB KEY;0af TAB KEY;0am co h ay ac co h;0bq co h am OF bj co h;
   0ac co h ay am co h;0bj co h am OF bq co h;0am co sh le;0bq co sh le;0ac co sh le;0bj co sh le;0am t ds v h;
   0bq t ds v h;0ac t ds v h;0bj t ds v h;0kb co i wl h;2gk wl h;2k wl h;2fa wl h;0RETURN k;1i;0NEWLINE k;1i;
   0w gn le CIRCLING kb;0ac t h;@2B97 0z fk TYPE A ELECTRONICS;0THREE-D TOP-LIGHTED am ij cp;
   1RIGHT-LIGHTED bq ij cp;1TOP-LIGHTED ac ij cp;1LEFT-LIGHTED bj ij cp;0t am ij cp;1bq ij cp;1ac ij cp;1bj ij cp;
   0bj co h a bz TIP am;6ac;0bq co h a bz TIP am;6ac;0am co h a bz TIP bq;0ac co h a bz TIP bq;
   0am co h a bz TIP bj;0ac co h a bz TIP bj;0t oy bj g am h;4ac h;2bq g am h;4ac h;2am g bq h;2ac g bq h;
   2am g bj h;2ac g bj h;0RIBBON h an k;3i;2UP k;3i;2k UP;2i UP;2k an;2i an;0bq v h gq ak a bd ak;
   0UP cp IN A to BOX;0OVERLAPPING v SQUARES;2g t SQUARES;1t SQUARES;0tb BOX a be X;0ds X;1hd X;0t au rg;1fh rg;
   0by t wf;0bd t OCTAGON;0t OCTAGON;1bp nb bl rg;2oa bl rg;2jn bl rg;2il bl rg;0NEPTUNE d l;0fa ap t av;
   0gk ap t av;0be w fz t CUSP;0db be w fz t CUSP;0v w fz CUSP;0db v w fz CUSP;0au POSITION rv;0UNCERTAINTY f;
   0GROUP q;0PLUTO d l;2s;2w;2aa;0TRANSPLUTO;0PROSERPINA;0ASTRAEA;0HYGIEA;0PHOLUS;0NESSUS;0v hz SELENA;0t fh ON el;
   0TRUE be hz ARTA;0CUPIDO;0HADES;0ZEUS;0KRONOS;0APOLLON;0ADMETOS;0VULCANUS;0POSEIDON;0k ap t dk;0i ap t dk;
   0dk a k ap t;2i ap t;0am pj h a bl wr;0bq pj h a bl wr;0ac pj h a bl wr;0bj pj h a bl wr;0ERIS d m;2l;0SEDNA;
   0RUSSIAN ASTROLOGICAL z VIGINTILE;3NOVILE;3QUINTILE;3BINOVILE;3SENTAGON;3TREDECILE;0fy f a um n;0UNITED z;
   0SEPARATED z;0DOUBLED z;0PASSED z;0ch i dw;0HELLSCHREIBER PAUSE z;0GLAGOLITIC e b AZU;3BUKY;3VEDE;3GLAGOLI;
   3DOBRO;3YESTU;3ZHIVETE;3DZELO;3ZEMLJA;3IZHE;3ab IZHE;3I;3DJERVI;3KAKO;3LJUDIJE;3MYSLITE;3NASHI;3ONU;3POKOJI;
   3RITSI;3SLOVO;3TVRIDO;3UKU;3FRITU;3HERU;3OTU;3PE;3SHTA;3TSI;3CHRIVI;3cl;3YERU;3YERI;3YATI;3SPIDERY HA;3YU;3c hk;
   5a dr;3YO;3uo c hk;3BIG hk;3uo BIG hk;3FITA;3up;3SHTAPIC;3TROKUTASTI A;3LATINATE MYSLITE;3CAUDATE CHRIVI;
   1c b AZU;3BUKY;3VEDE;3GLAGOLI;3DOBRO;3YESTU;3ZHIVETE;3DZELO;3ZEMLJA;3IZHE;3ab IZHE;3I;3DJERVI;3KAKO;3LJUDIJE;
   3MYSLITE;3NASHI;3ONU;3POKOJI;3RITSI;3SLOVO;3TVRIDO;3UKU;3FRITU;3HERU;3OTU;3PE;3SHTA;3TSI;3CHRIVI;3cl;3YERU;
   3YERI;3YATI;3SPIDERY HA;3YU;3c hk;5a dr;3YO;3uo c hk;3BIG hk;3uo BIG hk;3FITA;3up;3SHTAPIC;3TROKUTASTI A;
   3LATINATE MYSLITE;3CAUDATE CHRIVI;0dz e b L a p ak;1c b L a p ak;1e b L a ae bg;3P a y;3R a dr;1c b A a y;
   3T a ep y;1e b H a fg;1c b H a fg;1e b K a fg;1c b K a fg;1e b Z a fg;1c b Z a fg;1e b gg;3M a x;3by A;4gg;
   1c b V a i x;1e b W a x;1c b W a x;3V a iy;1e b ap H;1c b ap H;3TAILLESS PHI;3E a NOTCH;3by R a dr;
   3O a bn bi jv;1b c e by E;1tr c b J;0gz b e V;0dz e b S a SWASH dr;3Z a SWASH dr;0ie e b ALFA;1c b ALFA;
   1e b VIDA;1c b VIDA;1e b iz;1c b iz;1e b DALDA;1c b DALDA;1e b EIE;1c b EIE;1e b SOU;1c b SOU;1e b ZATA;
   1c b ZATA;1e b HATE;1c b HATE;1e b THETHE;1c b THETHE;1e b IAUDA;1c b IAUDA;1e b KAPA;1c b KAPA;1e b LAULA;
   1c b LAULA;1e b MI;1c b MI;1e b NI;1c b NI;1e b KSI;1c b KSI;1e b O;1c b O;1e b PI;1c b PI;1e b RO;1c b RO;
   1e b SIMA;1c b SIMA;1e b TAU;1c b TAU;1e b UA;1c b UA;1e b FI;1c b FI;1e b KHI;1c b KHI;1e b PSI;1c b PSI;
   1e b OOU;1c b OOU;1e b rl ba;1c b rl ba;1e b du ie gf;1c b du ie gf;1e b qr EIE;1c b qr EIE;1e b rl KAPA;
   1c b rl KAPA;1e b rl NI;1c b rl NI;1e b qr NI;1c b qr NI;1e b du ie OOU;1c b du ie OOU;1e b SAMPI;1c b SAMPI;
   1e b nf SHEI;1c b nf SHEI;1e b du ie SHEI;1c b du ie SHEI;1e b du ie ESH;1c b du ie ESH;1e b AKHMIMIC KHEI;
   1c b AKHMIMIC KHEI;1e b rl HORI;1c b rl HORI;1e b du ie HORI;1c b du ie HORI;1e b du ie HA;1c b du ie HA;
   1e b L-SHAPED HA;1c b L-SHAPED HA;1e b du ie HEI;1c b du ie HEI;1e b du ie HAT;1c b du ie HAT;1e b du ie GANGIA;
   1c b du ie GANGIA;1e b du ie DJA;1c b du ie DJA;1e b du ie SHIMA;1c b du ie SHIMA;1e b du qy SHIMA;
   1c b du qy SHIMA;1e b du qy NGI;1c b du qy NGI;1e b du qy NYI;1c b du qy NYI;1e b du qy WAU;1c b du qy WAU;
   1z KAI;2MI RO;2PI RO;2STAUROS;2TAU RO;2KHI RO;2SHIMA SIMA;1e b qr SHEI;1c b qr SHEI;1e b qr GANGIA;
   1c b qr GANGIA;1fj NI j;2SPIRITUS ASPER;3LENIS;1e b BOHAIRIC KHEI;1c b BOHAIRIC KHEI;@2CF9 1du qy eb cn;
   3DIRECT hj q;3INDIRECT hj q;3VERSE ue;1jt m ap;1eb cn;1MORPHOLOGICAL ue;0vp c b AN;3BAN;3GAN;3DON;3EN;3VIN;3ZEN;
   3TAN;3IN;3KAN;3LAS;3MAN;3NAR;3ON;3PAR;3ZHAR;3RAE;3SAN;3TAR;3UN;3PHAR;3KHAR;3GHAN;3QAR;3hb;3CHIN;3CAN;3JIL;3CIL;
   3CHAR;3XAN;3JHAN;3HAE;3HE;3HIE;3WE;3HAR;3HOE;@2D27 3YN;@2D2D 3AEN;@2D30 0TIFINAGH b YA;2YAB;2YABH;2YAG;2YAGHH;
   2BERBER ACADEMY YAJ;2YAJ;2YAD;2YADH;2YADD;2YADDH;2YEY;2YAF;2YAK;2TUAREG YAK;2YAKHH;2YAH;2BERBER ACADEMY YAH;
   2TUAREG YAH;2YAHH;2YAA;2YAKH;2TUAREG YAKH;2YAQ;2TUAREG YAQ;2YI;2YAZH;2AHAGGAR YAZH;2TUAREG YAZH;2YAL;2YAM;2YAN;
   2TUAREG YAGN;3YANG;2YAP;2YU;2YAR;2YARR;2YAGH;2TUAREG YAGH;2AYER YAGH;2YAS;2YASS;2YASH;2YAT;2YATH;2YACH;2YATT;
   2YAV;2YAW;2YAY;2YAZ;2TAWELLEMET YAZ;2YAZZ;2YE;2YO;@2D6F 1gz b LABIALIZATION q;1gv q;@2D7F 1it ti;
   0ETHIOPIC lb LOA;2MOA;2ROA;2SOA;2SHOA;2BOA;2TOA;2COA;2NOA;2NYOA;2hm OA;2ZOA;2DOA;2DDOA;2JOA;2THOA;2CHOA;2PHOA;
   2POA;2GGWA;2GGWI;2GGWEE;2GGWE;@2DA0 2fc;2SSU;2SSI;2SSAA;2SSEE;2SSE;2SSO;@2DA8 2CCA;2CCU;2CCI;2CCAA;2CCEE;2CCE;
   2CCO;@2DB0 2ZZA;2ZZU;2ZZI;2ZZAA;2ZZEE;2ZZE;2ZZO;@2DB8 2CCHA;2CCHU;2CCHI;2CCHAA;2CCHEE;2CCHE;2CCHO;@2DC0 2QYA;
   2QYU;2QYI;2QYAA;2QYEE;2QYE;2QYO;@2DC8 2KYA;2KYU;2KYI;2KYAA;2KYEE;2KYE;2KYO;@2DD0 2XYA;2XYU;2XYI;2XYAA;2XYEE;
   2XYE;2XYO;@2DD8 2GYA;2GYU;2GYI;2GYAA;2GYEE;2GYE;2GYO;@2DE0 0fj mq b BE;3VE;3GHE;3DE;3ZHE;3ZE;3KA;3EL;3EM;3EN;3O;
   3PE;3ER;3ES;3TE;3HA;3TSE;3CHE;3cl;3SHCHA;3FITA;3ES-TE;3A;3IE;3DJERV;3MONOGRAPH UK;3YAT;3YU;3lk A;3dp hk;3BIG hk;
   3lk BIG hk;0i dw uz sa;2fm uz sa;0k uz as;0i uz as;0k fm uz as;0i fm uz as;0ia INTERPOLATION sa;
   1fm INTERPOLATION sa;0fm zn sa;0k zn as;0i zn as;0ia au;0k ia OMISSION as;0i ia OMISSION as;0EDITORIAL CORONIS;
   0PARAGRAPHOS;0FORKED PARAGRAPHOS;0ch FORKED PARAGRAPHOS;0HYPODIASTOLE;0fm OBELOS;0bj ANCORA;0bq ANCORA;
   0fm il dw;0p me oe;0cv vt;0PALM BRANCH;0oe a ci;0bg a bi j;0k bn PARAPHRASE as;0i bn PARAPHRASE as;0bg a r j;3n;
   0k af ak a QUILL;0i af ak a QUILL;0fa k ap as;1i ap as;0gk k ap as;1i ap as;0k rb U as;0i rb U as;0k p ex;
   0i p ex;0l aw ay m r eu;0m r ay l aw eu;0ga w r eu;0aa r q;0ch hj q;0af bg;0bi no;0ml gv ae r;0by de;0ia r;1de;
   0by oq;0DAGGER a k GUARD;2i GUARD;0by DAGGER;0fa ap in f;0TWO-EM ew;0THREE-EM ew;0STENOGRAPHIC eb cn;0af ag aw;
   0WIGGLY af cj;0CAPITULUM;0p oe;0ch de;0p LOW-REVERSED-9 ha q;0ew a k UPTURN;0p SUSPENSION q;0cv bn KAVYKA;
   3a KAVYKA j;0bn KAVYKA;2a r;0p STACKED de;0fm ip;0em DAGGER;0MEDIEVAL de;0PARAGRAPHUS q;0PUNCTUS ELEVATUS q;
   0CORNISH VERSE ue;0el PATTY a i CROSSBAR;3k CROSSBAR;0TIRONIAN f e ET;0MEDIEVAL hy q;1hj q;0k au as a y;
   0i au as a y;0k au as a p y;0i au as a p y;0fa ap k ex;2i ex;0gk ap k ex;2i ex;0me oe;@2E80 0CJK RADICAL REPEAT;
   2CLIFF;2SECOND m;3l;3s;2lo;2BOX;2TABLE;2KNIFE m;3l;2DIVINATION;2SEAL;2c m;3l;2LAME m;3l;3s;3w;2SNAKE;2THREAD;
   2SNOUT m;3l;2hf m;3l;2gr;2RAP;@2E9B 2CHOKE;2SUN;2hz;2DEATH;2MOTHER;2CIVILIAN;2nx m;3l;2FIRE;2PAW m;3l;
   2yi ap TREE TRUNK;2COW;2DOG;2JADE;2BOLT OF CLOTH;2EYE;2SPIRIT m;3l;2BAMBOO;2SILK;2lu SILK;2NET m;3l;3s;3w;2MESH;
   2SHEEP;2RAM;2EWE;2du;2BRUSH m;3l;2MEAT;2MORTAR;2GRASS m;3l;3s;2TIGER;2CLOTHES;2dv m;3l;2lu SEE;2yi gb;2gb;
   2lu SPEECH;3io;2FOOT;2lu CART;2yi WALK;2WALK m;3l;2CITY;2lu GOLD;2bz m;3l;2lu bz;3GATE;2MOUND m;3l;2RAIN;2BLUE;
   2lu TANNED LEATHER;3ja;3WIND;3FLY;2EAT m;3l;3s;2lu EAT;2ju;2lu HORSE;2BONE;2GHOST;2lu FISH;3BIRD;3SALT;
   2yi WHEAT;3YELLOW;2lu FROG;2xk EVEN;2lu EVEN;2xk TOOTH;2lu TOOTH;2xk ro;2lu ro;2TURTLE;2xk TURTLE;2lu TURTLE;
   @2F00 0KANGXI RADICAL m;2cj;2r;2ls;2SECOND;2x;2l;2LID;2MAN;2LEGS;2ENTER;2ah;2an BOX;2COVER;2ICE;2TABLE;2bw BOX;
   2KNIFE;2POWER;2WRAP;2SPOON;2i bw BOX;2HIDING ENCLOSURE;2ca;2DIVINATION;2SEAL;2CLIFF;2PRIVATE;2AGAIN;2jl;
   2ENCLOSURE;2mu;2SCHOLAR;2GO;3SLOWLY;2EVENING;2BIG;2WOMAN;2CHILD;2ROOF;2INCH;2c;2LAME;2CORPSE;2SPROUT;2sb;2RIVER;
   2WORK;2ONESELF;2TURBAN;2DRY;2ec THREAD;2fm CLIFF;2bz STRIDE;2l HANDS;2SHOOT;2BOW;2SNOUT;2BRISTLE;2STEP;2hf;
   2HALBERD;2DOOR;2gr;2BRANCH;2RAP;2im;2DIPPER;2AXE;2au;2di;2SUN;2SAY;2hz;2TREE;2LACK;2cn;2DEATH;2WEAPON;2DO di;
   2COMPARE;2FUR;2CLAN;2STEAM;2nx;2FIRE;2CLAW;2FATHER;2p X;2ap TREE TRUNK;2SLICE;2FANG;2COW;2DOG;2PROFOUND;2JADE;
   2MELON;2TILE;2SWEET;2LIFE;2USE;2FIELD;2BOLT OF CLOTH;2SICKNESS;2fm TENT;2v;2SKIN;2iv;2EYE;2SPEAR;2h;2STONE;
   2SPIRIT;2TRACK;2GRAIN;2CAVE;2STAND;2BAMBOO;2RICE;2SILK;2JAR;2NET;2SHEEP;2FEATHER;2du;2g;2PLOW;2EAR;2BRUSH;2MEAT;
   2MINISTER;2SELF;2ARRIVE;2MORTAR;2TONGUE;2OPPOSE;2BOAT;2STOPPING;2COLOR;2GRASS;2TIGER;2INSECT;2BLOOD;
   2WALK ENCLOSURE;2CLOTHES;2dv;2SEE;2gb;2SPEECH;2VALLEY;2BEAN;2PIG;2BADGER;2io;2RED;2RUN;2FOOT;2BODY;2CART;
   2BITTER;2MORNING;2WALK;2CITY;2WINE;2DISTINGUISH;2VILLAGE;2GOLD;2bz;2GATE;2MOUND;2SLAVE;2ec TAILED BIRD;2RAIN;
   2BLUE;2WRONG;2at;2LEATHER;2TANNED LEATHER;2LEEK;2la;2ja;2WIND;2FLY;2EAT;2ju;2FRAGRANT;2HORSE;2BONE;2TALL;2HAIR;
   2FIGHT;2SACRIFICIAL WINE;2CAULDRON;2GHOST;2FISH;2BIRD;2SALT;2DEER;2WHEAT;2HEMP;2YELLOW;2MILLET;2t;2EMBROIDERY;
   2FROG;2TRIPOD;2DRUM;2RAT;2NOSE;2EVEN;2TOOTH;2ro;2TURTLE;2FLUTE;@2FF0 0ma DESCRIPTION lg k TO i;3j TO n;
   3k TO ae g i;3j TO ae g n;3eb SURROUND;3SURROUND gq j;5n;5k;5bv k;6i;5bk k;3OVERLAID"

end CommonExpr.Text.Name
