/-! Names of the letters, marks and signs of the living scripts. -/

namespace CommonExpr.Text.Name

/-- The names below 2000, in the notation of the tables of names. -/
def letters : String :=
  "@20 0jf;0hy q;0ha q;0cz f;0td f;0PERCENT f;0re;0qk;0k ex;0i ex;0ek;0al f;0de;0xg;0eb cn;0ip;0bh bt;1m;1l;1s;1w;
   1aa;1ag;1ao;1ah;1ar;0gm;0oq;0dh f;0fy f;0dj f;0hj q;0vk AT;0dz e b A;3B;3C;3D;3E;3F;3G;3H;3I;3J;3K;3L;3M;3N;3O;
   3P;3Q;3R;3S;3T;3U;3V;3W;3X;3Y;3Z;0k au as;0jc ip;0i au as;0cb fi;0bn cj;0cr fi;0dz c b A;3B;3C;3D;3E;3F;3G;3H;
   3I;3J;3K;3L;3M;3N;3O;3P;3Q;3R;3S;3T;3U;3V;3W;3X;3Y;3Z;0k hw as;0af cj;0i hw as;0bg;@A0 0NO-BREAK jf;0cv hy q;
   0CENT f;0POUND f;0vl f;0YEN f;0BROKEN ak;0in f;0ci;0COPYRIGHT f;0FEMININE ORDINAL rv;0jn p dw ha q;0di f;
   0SOFT oe;0REGISTERED f;0cx;0DEGREE f;0PLUS-MINUS f;0nv l;1s;0bo fi;0MICRO f;0PILCROW f;0ae r;0he;0nv m;
   0MASCULINE ORDINAL rv;0il p dw ha q;0VULGAR jt m gj;3ap;2s mh;0cv hj q;0dz e b A a cr;5bo;5cb;5bg;5ci;5bi j;3AE;
   3C a he;3E a cr;5bo;5cb;5ci;3I a cr;5bo;5cb;5ci;3ETH;3N a bg;3O a cr;5bo;5cb;5bg;5ci;0pd f;0dz e b O a y;
   3U a cr;5bo;5cb;5ci;3Y a bo;3THORN;1c b SHARP S;3A a cr;5bo;5cb;5bg;5ci;5bi j;3AE;3C a he;3E a cr;5bo;5cb;5ci;
   3I a cr;5bo;5cb;5ci;3ETH;3N a bg;3O a cr;5bo;5cb;5bg;5ci;0rm f;0dz c b O a y;3U a cr;5bo;5cb;5ci;3Y a bo;3THORN;
   3Y a ci;1e b A a cx;1c b A a cx;1e b A a dn;1c b A a dn;1e b A a mf;1c b A a mf;1e b C a bo;1c b C a bo;
   1e b C a cb;1c b C a cb;1e b C a r j;1c b C a r j;1e b C a eo;1c b C a eo;1e b D a eo;1c b D a eo;1e b D a y;
   1c b D a y;1e b E a cx;1c b E a cx;1e b E a dn;1c b E a dn;1e b E a r j;1c b E a r j;1e b E a mf;1c b E a mf;
   1e b E a eo;1c b E a eo;1e b G a cb;1c b G a cb;1e b G a dn;1c b G a dn;1e b G a r j;1c b G a r j;1e b G a he;
   1c b G a he;1e b H a cb;1c b H a cb;1e b H a y;1c b H a y;1e b I a bg;1c b I a bg;1e b I a cx;1c b I a cx;
   1e b I a dn;1c b I a dn;1e b I a mf;1c b I a mf;1e b I a r j;1c b mt I;1e gi IJ;1c gi IJ;1e b J a cb;
   1c b J a cb;1e b K a he;1c b K a he;3KRA;1e b L a bo;1c b L a bo;1e b L a he;1c b L a he;1e b L a eo;
   1c b L a eo;1e b L a ae r;1c b L a ae r;1e b L a y;1c b L a y;1e b N a bo;1c b N a bo;1e b N a he;1c b N a he;
   1e b N a eo;1c b N a eo;4PRECEDED BY qk;1e b ENG;1c b ENG;1e b O a cx;1c b O a cx;1e b O a dn;1c b O a dn;
   1e b O a p bo;1c b O a p bo;1e gi OE;1c gi OE;1e b R a bo;1c b R a bo;1e b R a he;1c b R a he;1e b R a eo;
   1c b R a eo;1e b S a bo;1c b S a bo;1e b S a cb;1c b S a cb;1e b S a he;1c b S a he;1e b S a eo;1c b S a eo;
   1e b T a he;1c b T a he;1e b T a eo;1c b T a eo;1e b T a y;1c b T a y;1e b U a bg;1c b U a bg;1e b U a cx;
   1c b U a cx;1e b U a dn;1c b U a dn;1e b U a bi j;1c b U a bi j;1e b U a p bo;1c b U a p bo;1e b U a mf;
   1c b U a mf;1e b W a cb;1c b W a cb;1e b Y a cb;1c b Y a cb;1e b Y a ci;3Z a bo;1c b Z a bo;1e b Z a r j;
   1c b Z a r j;1e b Z a eo;1c b Z a eo;3bz S;3B a y;1e b B a x;5TOPBAR;1c b B a TOPBAR;1e b cd ag;1c b cd ag;
   1e b bw O;3C a x;1c b C a x;1e b AFRICAN D;3D a x;5TOPBAR;1c b D a TOPBAR;3by jm;1e b ch E;3qe;3bw E;3F a x;
   1c b F a x;1e b G a x;3iz;1c b HV;1e b gt;3I a y;3K a x;1c b K a x;3L a ak;3LAMBDA a y;1e b by M;3N a k x;
   1c b N a bz i LEG;1e b O a ae bg;5gb;1c b O a gb;1e b OI;1c b OI;1e b P a x;1c b P a x;1b YR;1e b cd l;
   1c b cd l;1e b ESH;1b ch ESH kl;1c b T a hi x;1e b T a x;1c b T a x;1e b T a ey x;3U a gb;1c b U a gb;1e b hr;
   3V a x;3Y a x;1c b Y a x;1e b Z a y;1c b Z a y;1e b EZH;4ch;1c b EZH ch;4a dr;1b l a y;1e b cd aa;1c b cd aa;
   1b cv hm cn a y;2WYNN;2DENTAL ox;2LATERAL ox;2ALVEOLAR ox;2ey ox;1e b DZ a eo;3D a c b Z a eo;1c b DZ a eo;
   1e b LJ;3L a c b J;1c b LJ;1e b NJ;3N a c b J;1c b NJ;1e b A a eo;1c b A a eo;1e b I a eo;1c b I a eo;
   1e b O a eo;1c b O a eo;1e b U a eo;1c b U a eo;1e b U a ci g cx;1c b U a ci g cx;1e b U a ci g bo;
   1c b U a ci g bo;1e b U a ci g eo;1c b U a ci g eo;1e b U a ci g cr;1c b U a ci g cr;3by E;1e b A a ci g cx;
   1c b A a ci g cx;1e b A a r j g cx;1c b A a r j g cx;1e b AE a cx;1c b AE a cx;1e b G a y;1c b G a y;
   1e b G a eo;1c b G a eo;1e b K a eo;1c b K a eo;1e b O a mf;1c b O a mf;1e b O a mf g cx;1c b O a mf g cx;
   1e b EZH a eo;1c b EZH a eo;3J a eo;1e b DZ;3D a c b Z;1c b DZ;1e b G a bo;1c b G a bo;1e b HWAIR;3WYNN;3N a cr;
   1c b N a cr;1e b A a bi j g bo;1c b A a bi j g bo;1e b AE a bo;1c b AE a bo;1e b O a y g bo;1c b O a y g bo;
   1e b A a p cr;1c b A a p cr;1e b A a cv dn;1c b A a cv dn;1e b E a p cr;1c b E a p cr;1e b E a cv dn;
   1c b E a cv dn;1e b I a p cr;1c b I a p cr;1e b I a cv dn;1c b I a cv dn;1e b O a p cr;1c b O a p cr;
   1e b O a cv dn;1c b O a cv dn;1e b R a p cr;1c b R a p cr;1e b R a cv dn;1c b R a cv dn;1e b U a p cr;
   1c b U a p cr;1e b U a cv dn;1c b U a cv dn;1e b S a de n;1c b S a de n;1e b T a de n;1c b T a de n;1e b YOGH;
   1c b YOGH;1e b H a eo;1c b H a eo;1e b N a bz i LEG;1c b D a iy;1e b OU;1c b OU;1e b Z a x;1c b Z a x;
   1e b A a r j;1c b A a r j;1e b E a he;1c b E a he;1e b O a ci g cx;1c b O a ci g cx;1e b O a bg g cx;
   1c b O a bg g cx;1e b O a r j;1c b O a r j;1e b O a r j g cx;1c b O a r j g cx;1e b Y a cx;1c b Y a cx;3L a iy;
   3N a iy;3T a iy;3mt J;3DB hl;3QP hl;1e b A a y;3C a y;1c b C a y;1e b L a ak;3T a ep y;1c b S a SWASH dr;
   3Z a SWASH dr;1e b hm cn;1c b hm cn;1e b B a y;3U ak;3by V;3E a y;1c b E a y;1e b J a y;1c b J a y;
   1e b c Q a x dr;1c b Q a x dr;1e b R a y;1c b R a y;1e b Y a y;1c b Y a y;3by A;3gg;3by gg;3B a x;3bw O;3C a iy;
   3D a dr;5x;3ch E;3qe;4a x;3bw E;3ch bw E;6a x;3fx ch bw E;3mt J a y;3G a x;3im G;1b c e G;1c b iz;3RAMS gb;
   3by H;3H a x;3HENG a x;3I a y;3gt;1b c e I;1c b L a ae bg;5BELT;5ey x;3LEZH;3by M;5a bz LEG;3M a x;3N a k x;
   5ey x;1b c e N;1c b pm O;1b c e OE;1c b fx fo;3PHI;3by R;5a bz LEG;6x;3R a bz LEG;5dr;5tf;3ch R a tf;1b c e R;
   4cv R;1c b S a x;3ESH;3mt J a y g x;3SQUAT ch ESH;3ESH a iy;3by T;3T a ey x;3U ak;3hr;3V a x;3by V;4W;4Y;
   1b c e Y;1c b Z a ey x;5iy;3EZH;4a iy;1b hm cn;2PHARYNGEAL qj FRICATIVE;2cv hm cn;2STRETCHED C;2BILABIAL ox;
   2c e B;1c b fx bw E;1b c e G a x;4H;1c b J a qq;3by K;1b c e L;1c b Q a x;1b hm cn a y;2ch hm cn a y;1c b DZ hl;
   3DEZH hl;3DZ hl a iy;3TS hl;3TESH hl;3TC hl a iy;3FENG hl;3LS hl;3LZ hl;1b BILABIAL PERCUSSIVE;
   2BIDENTAL PERCUSSIVE;1c b by H a tf;7g dr;0gz b c H;4a x;3J;3R;3by R;5a x;3e cv R;3W;3Y;2on;2p on;2by de;2qk;
   2ch de;2i ap bi;2k ap bi;2hm cn;2ch hm cn;2k cp;2i cp;2UP cp;2an cp;2cb fi;0eo;0gz b af cj;2cx;2bo fi;2cr fi;
   2bn af cj;3cx;3cr fi;3bo fi;2jh gm;2ap jh gm;2rg i ap bi;3k ap bi;2UP ge;2an ge;2al f;2km f;0dn;0r j;0bi j;0mf;
   0c bg;0p bo fi;0gz b RHOTIC x;2el fi;2c iz;3L;3S;3X;3ch hm cn;2wz cd ak;2cf cd ak;2MID cd ak;2bn cd ak;
   2xa cd ak;2YIN DEPARTING cd q;2YANG DEPARTING cd q;2VOICING;2UNASPIRATED;2p qk;2bn an cp;3UP cp;3k cp;3i cp;3bi;
   2ae cr fi;3p cr fi;4bo fi;2bn bg;2ia gm;2BEGIN cf cd;2fs cf cd;2BEGIN bn cd;2fs bn cd;2SHELF;2bw SHELF;2bn k h;
   0fj cr fi;1bo fi;1cb fi;1bg;1cx;1sg;1dn;1r j;1ci;1x j;1bi j;1p bo fi;1eo;1af cj j;1p af cj j;2cr fi;1go;1cv dn;
   1by de j;1de j;1ch de j;1de j i;1cr fi n;1bo fi n;1k ge n;1i ge n;1k dw j;1gb;1k ap bi n;1UP ge n;1an ge n;
   1al f n;1km f n;1PALATALIZED x n;1ey x n;1r n;1ci n;1bi n;1de n;1he;1mf;1af cj n;1BRIDGE n;1cv p ARCH n;1eo n;
   1cb fi n;1dn n;1cv dn n;1bg n;1cx n;1bn cj;1p bn cj;1bg iw;1ec y iw;1bz y iw;1ec ip iw;1bz ip iw;1i ap bi n;
   1cv BRIDGE n;1au n;1SEAGULL n;1X j;1af bg;1p sg;1cr cd q;1bo cd q;1if et;2KORONIS;2mr jy;2fr;1BRIDGE j;1fy f n;
   1p af cj n;1k dw n;1di bg j;1HOMOTHETIC j;1ld bc TO j;1k i h n;1bq h n;1GRAPHEME ti;1i cp j;1k ap bi j;1FERMATA;
   1X n;1k cp n;1i cp n;3g UP cp n;2ap bi j;1r j i;1ek n;1p bi n;1sy j;1p dn n;3;2cx;3n;2bg;2cv dn;2ac h n;
   1dz c b A;4E;4I;4O;4U;4C;4D;4H;4M;4R;4T;4V;4X;0if e b HETA;1c b HETA;1e b jq SAMPI;1c b jq SAMPI;1qc f;1bk qc f;
   1e b PAMPHYLIAN ud;1c b PAMPHYLIAN ud;@37A 1fr;1c ch py ic z;2fm py ic z;2ch fm py ic z;1hj q;1e b YOT;@384 1jy;
   1mr jy;1e b gg a jy;1ANO TELEIA;1e b hx a jy;3ETA a jy;3gt a jy;@38C 3kn a jy;@38E 3hr a jy;3fo a jy;
   1c b gt a mr g jy;1e b gg;3js;3iz;3jm;3hx;3ZETA;3ETA;3ih;3gt;3kj;3mw;3MU;3NU;3XI;3kn;3PI;3RHO;@3A3 3ic;3TAU;3hr;
   3PHI;3CHI;3PSI;3fo;3gt a mr;3hr a mr;1c b gg a jy;3hx a jy;3ETA a jy;3gt a jy;3hr a mr g jy;3gg;3js;3iz;3jm;3hx;
   3ZETA;3ETA;3ih;3gt;3kj;3mw;3MU;3NU;3XI;3kn;3PI;3RHO;3o ic;3ic;3TAU;3hr;3PHI;3CHI;3PSI;3fo;3gt a mr;3hr a mr;
   3kn a jy;3hr a jy;3fo a jy;1e KAI z;1js z;1ih z;1hr a x z;3bo g x z;3ci g x z;1PHI z;1PI z;1KAI z;1b jq KOPPA;
   1c b jq KOPPA;1b STIGMA;1c b STIGMA;1b ud;1c b ud;1b KOPPA;1c b KOPPA;1b SAMPI;1c b SAMPI;0ie e b SHEI;
   1c b SHEI;1e b FEI;1c b FEI;1e b KHEI;1c b KHEI;1e b HORI;1c b HORI;1e b GANGIA;1c b GANGIA;1e b SHIMA;
   1c b SHIMA;1e b DEI;1c b DEI;0if kj z;1RHO z;1py ic z;1b YOT;1e ih z;1py hx z;1ch py hx z;1e b SHO;1c b SHO;
   1e py ic z;2b SAN;1c b SAN;1RHO a y z;1e ch py ic z;2fm py ic z;2ch fm py ic z;0mq e b IE a cr;3IO;3DJE;3GJE;
   3UKRAINIAN IE;3DZE;3zo I;3YI;3JE;3LJE;3NJE;3TSHE;3KJE;3I a cr;3ec U;3DZHE;3A;3BE;3VE;3GHE;3DE;3IE;3ZHE;3ZE;3I;
   3ec I;3KA;3EL;3EM;3EN;3O;3PE;3ER;3ES;3TE;3U;3EF;3HA;3TSE;3CHE;3cl;3SHCHA;3HARD f;3YERU;3SOFT f;3E;3YU;3YA;
   1c b A;3BE;3VE;3GHE;3DE;3IE;3ZHE;3ZE;3I;3ec I;3KA;3EL;3EM;3EN;3O;3PE;3ER;3ES;3TE;3U;3EF;3HA;3TSE;3CHE;3cl;
   3SHCHA;3HARD f;3YERU;3SOFT f;3E;3YU;3YA;3IE a cr;3IO;3DJE;3GJE;3UKRAINIAN IE;3DZE;3zo I;3YI;3JE;3LJE;3NJE;3TSHE;
   3KJE;3I a cr;3ec U;3DZHE;1e b fo;1c b fo;1e b YAT;1c b YAT;1e b lk E;1c b lk E;1e b dp hk;1c b dp hk;
   1e b lk dp hk;1c b lk dp hk;1e b BIG hk;1c b BIG hk;1e b lk BIG hk;1c b lk BIG hk;1e b KSI;1c b KSI;1e b PSI;
   1c b PSI;1e b FITA;1c b FITA;1e b up;1c b up;1e b up a p cr fi;1c b up a p cr fi;1e b UK;1c b UK;1e b oo fo;
   1c b oo fo;1e b fo a TITLO;1c b fo a TITLO;1e b OT;1c b OT;1e b KOPPA;1c b KOPPA;1su f;0fj mq TITLO;
   2PALATALIZATION;2ce PNEUMATA;2cg PNEUMATA;2POKRYTIE;2aq su f;2tk f;0mq e b ec I a dr;1c b ec I a dr;
   1e b SEMISOFT f;1c b SEMISOFT f;1e b ER a TICK;1c b ER a TICK;1e b GHE a UPTURN;1c b GHE a UPTURN;1e b GHE a y;
   1c b GHE a y;1e b GHE a ae x;1c b GHE a ae x;1e b ZHE a fg;1c b ZHE a fg;1e b ZE a fg;1c b ZE a fg;1e b KA a fg;
   1c b KA a fg;1e b KA a af y;1c b KA a af y;1e b KA a y;1c b KA a y;1e b BASHKIR KA;1c b BASHKIR KA;1e b EN a fg;
   1c b EN a fg;1e gi EN GHE;1c gi EN GHE;1e b PE a ae x;1c b PE a ae x;1e b rd HA;1c b rd HA;1e b ES a fg;
   1c b ES a fg;1e b TE a fg;1c b TE a fg;1e b iq U;1c b iq U;1e b iq U a y;1c b iq U a y;1e b HA a fg;
   1c b HA a fg;1e gi TE TSE;1c gi TE TSE;1e b CHE a fg;1c b CHE a fg;1e b CHE a af y;1c b CHE a af y;1e b SHHA;
   1c b SHHA;1e b rd CHE;1c b rd CHE;1e b rd CHE a fg;1c b rd CHE a fg;1b PALOCHKA;1e b ZHE a dn;1c b ZHE a dn;
   1e b KA a x;1c b KA a x;1e b EL a dr;1c b EL a dr;1e b EN a x;1c b EN a x;1e b EN a dr;1c b EN a dr;
   1e b KHAKASSIAN CHE;1c b KHAKASSIAN CHE;1e b EM a dr;1c b EM a dr;3PALOCHKA;1e b A a dn;1c b A a dn;1e b A a ci;
   1c b A a ci;1e gi A IE;1c gi A IE;1e b IE a dn;1c b IE a dn;1e b qe;1c b qe;1e b qe a ci;1c b qe a ci;
   1e b ZHE a ci;1c b ZHE a ci;1e b ZE a ci;1c b ZE a ci;1e b rd DZE;1c b rd DZE;1e b I a cx;1c b I a cx;
   1e b I a ci;1c b I a ci;1e b O a ci;1c b O a ci;1e b pm O;1c b pm O;1e b pm O a ci;1c b pm O a ci;1e b E a ci;
   1c b E a ci;1e b U a cx;1c b U a cx;1e b U a ci;1c b U a ci;1e b U a p bo;1c b U a p bo;1e b CHE a ci;
   1c b CHE a ci;1e b GHE a fg;1c b GHE a fg;1e b YERU a ci;1c b YERU a ci;1e b GHE a y g x;1c b GHE a y g x;
   1e b HA a x;1c b HA a x;1e b HA a y;1c b HA a y;1e b lm DE;1c b lm DE;1e b lm DJE;1c b lm DJE;1e b lm ZJE;
   1c b lm ZJE;1e b lm DZJE;1c b lm DZJE;1e b lm LJE;1c b lm LJE;1e b lm NJE;1c b lm NJE;1e b lm SJE;1c b lm SJE;
   1e b lm TJE;1c b lm TJE;1e b ch ZE;1c b ch ZE;1e b EL a x;1c b EL a x;1e b LHA;1c b LHA;1e b RHA;1c b RHA;
   1e b YAE;1c b YAE;1e b QA;1c b QA;1e b WE;1c b WE;1e b ALEUT KA;1c b ALEUT KA;1e b EL a ae x;1c b EL a ae x;
   1e b EN a ae x;1c b EN a ae x;1e b PE a fg;1c b PE a fg;1e b SHHA a fg;1c b SHHA a fg;1e b EN a k x;
   1c b EN a k x;1e b DZZHE;1c b DZZHE;1e b DCHE;1c b DCHE;1e b EL a fg;1c b EL a fg;@531 0vg e b AYB;3BEN;3GIM;
   3DA;3ECH;3ZA;3EH;3ET;3TO;3ZHE;3INI;3LIWN;3XEH;3CA;3KEN;3HO;3JA;3GHAD;3CHEH;3MEN;3YI;3NOW;3cl;3VO;3cs;3PEH;3JHEH;
   3RA;3SEH;3VEW;3TIWN;3gu;3CO;3YIWN;3PIWR;3KEH;3OH;3FEH;@559 1gz b k ap bi;1qk;1EMPHASIS q;1hy q;1de;1hj q;1jz q;
   1c b by AYB;3AYB;3BEN;3GIM;3DA;3ECH;3ZA;3EH;3ET;3TO;3ZHE;3INI;3LIWN;3XEH;3CA;3KEN;3HO;3JA;3GHAD;3CHEH;3MEN;3YI;
   3NOW;3cl;3VO;3cs;3PEH;3JHEH;3RA;3SEH;3VEW;3TIWN;3gu;3CO;3YIWN;3PIWR;3KEH;3OH;3FEH;2gi ECH YIWN;2b YI a y;1eb cn;
   1oe;@58D 0yd vg ETERNITY f;0xl vg ETERNITY f;0vg DRAM f;@591 0HEBREW fi ETNAHTA;2SEGOL;2SHALSHELET;2ZAQEF QATAN;
   3GADOL;2TIPEHA;2REVIA;2ZARQA;2PASHTA;2YETIV;2TEVIR;2GERESH;3MUQDAM;2GERSHAYIM;2QARNEY PARA;2TELISHA GEDOLA;
   2PAZER;2ATNAH HAFUKH;2MUNAH;2MAHAPAKH;2MERKHA;3KEFULA;2DARGA;2QADMA;2TELISHA QETANA;2YERAH BEN YOMO;2OLE;2ILUY;
   2DEHI;2ZINOR;1q MASORA av;1no SHEVA;2HATAF SEGOL;3PATAH;3QAMATS;2HIRIQ;2TSERE;2SEGOL;2PATAH;2QAMATS;2HOLAM;
   3HASER fk VAV;2QUBUTS;2iu OR MAPIQ;2METEG;1eu MAQAF;1no RAFE;1eu PASEQ;1no hb r;2SIN r;1eu SOF PASUQ;1q bv r;
   2bk r;1eu ej HAFUKHA;1no QAMATS QATAN;@5D0 1b ba;2BET;2lh;2DALET;2HE;2VAV;2nc;2HET;2TET;2YOD;2o gy;2gy;2LAMED;
   2o MEM;2MEM;2o ej;2ej;2lq;2AYIN;2o PE;2PE;2o TSADI;2TSADI;2QOF;2RESH;2hb;2TAV;@5EF 1YOD bl;1gi YIDDISH p VAV;
   3VAV YOD;3p YOD;1eu GERESH;2GERSHAYIM;@600 0jp cz f;1f SANAH;1FOOTNOTE sa;1f SAFHA;2SAMVAT;1cz q j;
   0pl CUBE ROOT;1FOURTH ROOT;0jp RAY;0pl PER MILLE f;2ca az f;0AFGHANI f;0jp de;1DATE gv;1POETIC VERSE f;1f MISRA;
   2SALLALLAHOU ALAYHE WASSALLAM;2ALAYHE ASSALLAM;2RAHMATULLAH ALAYHE;2RADI ALLAHOU ANHU;2TAKHALLUS;1c cf TAH;
   3gi ba a ft a ax;3mn;2oc;2pr;2ni;1oq;1b q;1fs OF TEXT q;1em r eu q;1hj q;1b KASHMIRI ax;2fu;2ba a MADDA j;4fu j;
   2fq a fu j;2ba a fu n;2ax a fu j;2ba;2BEH;2TEH MARBUTA;3;2THEH;2bx;2br;2dt;2DAL;2THAL;2gu;2mn;2hv;2jx;2SAD;2DAD;
   2TAH;2ZAH;2gf;2ku;2KEHEH a l aw j;4s aw n;2FARSI ax a cv V;5l aw j;5s aw j;1TATWEEL;1b FEH;2QAF;2gy;2ft;2aj;2fl;
   2hg;2fq;2ba ct;2ax;1ui;1vm;1vu;1oc;1pr;1ni;1SHADDA;1SUKUN;1MADDAH j;1fu j;2n;1tr ba;1cv pr;1q fl GHUNNA;
   1ZWARAKAY;1bf f c V j;3cv c V j;3r n;1ch pr;1oc a l aw;1WAVY fu n;0pl bh bt;2m;2l;2s;2w;2aa;2ag;2ao;2ah;2ar;
   0jp PERCENT f;1DECIMAL gv;1su gv;1aa fz dk;1b mt BEH;3QAF;2nv ba;2ba WASLA;3a WAVY fu j;6n;2cf fu;4ba;4fq;
   2U a fu j;2cf fu ax;2TTEH;2TTEHEH;2BEEH;2TEH a bi;4s aw j bj;2PEH;2TEHEH;2BEHEH;2br a fu j;4l aw af j;2NYEH;
   2DYEH;2br a s aw j;2TCHEH;2TCHEHEH;2DDAL;2DAL a bi;4r n;6g c TAH;2DAHAL;2DDAHAL;2DUL;2DAL a s aw j bj;4w aw j;
   2RREH;2gu a c V;4bi;4r n;4c V n;4r n g r j;4l aw j;2JEH;2gu a w aw j;2hv a r n g r j;4s aw n;7g s aw j;
   2SAD a l aw n;4s aw j;2TAH a s aw j;2gf a s aw j;2mt FEH;2FEH a r MOVED n;5n;2VEH;2FEH a s aw n;2PEHEH;
   2QAF a r j;4s aw j;2KEHEH;2SWASH gy;2gy a bi;4r j;2NG;2gy a s aw n;2GAF;3a bi;2NGOEH;2GAF a l aw n;2GUEH;
   2GAF a s aw j;2ft a c V;4r j;4s aw j;6n;2fl a r n;3GHUNNA;2RNOON;2fl a bi;4s aw j;2hg DOACHASHMEE;2TCHEH a r j;
   2hg a ax j;3GOAL;4a fu j;2TEH MARBUTA GOAL;2fq a bi;2KIRGHIZ OE;2OE;2U;2YU;2KIRGHIZ YU;2fq a l aw j;2VE;
   2FARSI ax;2ax a dr;4c V;2fq a r j;2E;2ax a s aw n;3BARREE;4a fu j;1eb cn;1b AE;1c cf gi SAD a ft a ba ct;
   4QAF a ft a ba ct;3aj ab d;3ft ba;3bx;3s aw;3hv;1fs OF AYAH;1START OF RUB EL HIZB;1c cf qd bt;
   3UPRIGHT RECTANGULAR bt;3mt ju OF dt;3aj u d;2bn hv;2cf MADDA;2fq;2ax;2cf ax;3fl;1PLACE OF SAJDAH;
   1EMPTY dm bn cn;3cf cn;1qd cf cn a FILLED dm;1c bn aj;1b DAL a cv V;2gu a cv V;0rq pl bh bt;3m;3l;3s;3w;3aa;3ag;
   3ao;3ah;3ar;0jp b jx a r n;2DAD a r n;2ku a r n;1f SINDHI re;3POSTPOSITION MEN;1b hg a cv V;0SYRIAC fs OF we;
   1SUPRALINEAR eb cn;1SUBLINEAR eb cn;1SUPRALINEAR gm;1SUBLINEAR gm;1bd gm;1gm SKEWED k;3i;
   1SUPRALINEAR gm SKEWED k;1SUBLINEAR gm SKEWED i;1CONTRACTION;1HARKLEAN OBELUS;2METOBELUS;2ASTERISCUS;@70F 1jz q;
   1b ALAPH;2nv ALAPH;2ks;2GAMAL;3GARSHUNI;2DALATH;2mt DALATH RISH;2HE;2fq;2mn;2lz;2TETH;3GARSHUNI;2YUDH;3HE;2ll;
   2LAMADH;2MIM;2ej;2SEMKATH;2o SEMKATH;2E;2PE;2ch PE;2mi;2QAPH;2RISH;2hb;2TAW;2PERSIAN BHETH;3GHAMAL;3DHALATH;
   1PTHAHA j;2n;2fm;1ZQAPHA j;2n;2fm;1RBASA j;2n;1fm ZLAMA bd;3ANGULAR;1HBASA j;2n;1HBASA-ESASA fm;1ESASA j;2n;
   1RWAHA;1FEMININE r;1QUSHSHAYA;1RUKKAKHA;1l af aw j;4n;1s aw j;3n;1me cj j;3n;1MUSIC;1BARREKH;
   @74D 1b SOGDIAN ZHAIN;3KHAPH;3FE;0jp b BEH a s aw HORIZONTALLY n;4r n g s aw j;4s aw cy bq n;9g l aw j;
   4l aw n g r j;4cv c V n;4c V;2br a l aw j;4s aw cy bq n;2DAL a l aw tu n g c TAH;4cv c V n;2gu a y;2hv a w aw j;
   2gf a l aw j;4s aw cy bj j;4l aw tu j;2FEH a l aw n;4s aw cy bq n;2KEHEH a r j;4s aw j;6cy bq n;2aj a r j;5n;
   2fl a l aw n;4c TAH;5V;2ft a ak;2gu a l aw tu j;4fu j;2hv a l aw tu j;2br a c jp b TAH n;8g l aw;
   2hv a c jp b TAH g l aw;2gu a c jp b TAH g l aw;2br a c jp b TAH j;2ba a rq pl bh l j;7s j;
   2FARSI ax a rq pl bh l j;8s j;8w n;2fq a rq pl bh l j;7s j;2ax BARREE a rq pl bh l j;8s j;2br a rq pl bh w n;
   2hv a rq pl bh w j;4cv V;2gy a l aw j;0THAANA b HAA;2SHAVIYANI;2NOONU;2RAA;2BAA;2LHAVIYANI;2KAAFU;2ALIFU;2VAAVU;
   2MEEMU;2FAAFU;2DHAALU;2THAA;2LAAMU;2GAAFU;2GNAVIYANI;2SEENU;2DAVIYANI;2ZAVIYANI;2TAVIYANI;2YAA;2PAVIYANI;
   2JAVIYANI;2CHAVIYANI;2TTAA;2HHAA;2KHAA;2THAALU;2ZAA;2SHEENU;2SAADHU;2DAADHU;2TO;2ZO;2AINU;2GHAINU;2QAAFU;2WAAVU;
   1ABAFILI;1AABAAFILI;1IBIFILI;1EEBEEFILI;1UBUFILI;1OOBOOFILI;1EBEFILI;1EYBEYFILI;1OBOFILI;1OABOAFILI;1SUKUN;
   1b NAA;@7C0 0NKO bh bt;2m;2l;2s;2w;2aa;2ag;2ao;2ah;2ar;1b A;2EE;2I;2E;2U;2OO;2O;2DAGBASINNA;2N;2BA;2PA;2TA;2JA;
   2cs;2DA;2RA;2RRA;2SA;2GBA;2FA;2KA;2LA;2NA WOLOSO;2MA;2cu;2NA;2HA;2WA;2YA;2cu WOLOSO;2JONA JA;3cs;3RA;
   1fj ec cf cd;3bn cd;3nr cd;2bz DESCENDING cd;3cf cd;3bn cd;3nr cd;2za q;2p r j;1cf cd qk;1bn cd qk;1z OO DENNEN;
   2GBAKURUNEN;1de;1hy q;1LAJANYALAN;@7FD 1DANTAYALAN;1DOROME f;1TAMAN f;0SAMARITAN b ALAF;2BIT;2GAMAN;2DALAT;2IY;
   2BAA;2ZEN;2IT;2TIT;2YUT;2KAAF;2LABAT;2MIM;2ej;2SINGAAT;2IN;2FI;2TSAADIY;2QUF;2RISH;2SHAN;2TAAF;1q IN;2IN-ALAF;
   2OCCLUSION;2iu;1gz b EPENTHETIC YUT;1q EPENTHETIC YUT;1bf f bz E;3E;3OVERLONG AA;3bz AA;3AA;3OVERLONG A;3bz A;
   3A;1gz b ec A;1bf f ec A;3bz U;3U;1gz b I;1bf f bz I;3I;3O;3SUKUN;1q NEQUDAA;@830 1eu NEQUDAA;2AFSAAQ;2ANGED;
   2BAU;2ATMAAU;2SHIYYAALAA;1jz q;1eu MELODIC QITSA;2ZIQAA;2QITSA;2ZAEF;2TURU;2ARKAANU;2SOF MASHFAAT;2ANNAAU;
   @840 0MANDAIC b HALQA;2AB;2AG;2AD;2AH;2USHENNA;2AZ;2IT;2ATT;2AKSA;2AK;2AL;2AM;2AN;2AS;2IN;2AP;2ASZ;2AQ;2AR;2en;
   2AT;2DUSHENNA;2KAD;2gf;1AFFRICATION q;1VOCALIZATION q;1vo q;@85E 1eu;@860 0SYRIAC b MALAYALAM ck;3JA;3cu;3ee;
   3eq;3NNNA;3er;3RA;3hp;3LLLA;3fc;@870 0jp b ba a tx oc;5fa i oc;4i ae y;4k ae y;4tx ni;5gk i ni;5oo r j;5i oo r;
   5k oo r;5oo r n;4r j;4tx fa i oc g r j;4i ae y g r j;4tx gk i ni g r j;5fa i oc g k bi;4i ae y g k bi;
   4tx gk i ni g k bi;5i fu;5k fu;1TATWEEL a OVERSTRUCK fu;4fq;3l aw n;1b THIN ax;1BASELINE oo r;1ia oo r;
   1b fl a cv c V;2br a cv c V n;2TAH a r n;4s aw n;2KEHEH a l aw tu n;1af dr;@890 1POUND q j;1PIASTRE q j;
   @898 1c cf ml AL-JUZ;2bn ml ISHMAAM;4IMAALA;4TASHEEL;1MADDA WAAJIB;1nv ba MOKHASSAS;1DOUBLED MADDA;
   1ap MADDA ay MADDA;1b BEH a c V n;4fu j;2bx a l aw j;2TAH a l aw j;2FEH a r n g s aw j;2QAF a r n;2ft a p ak;
   2aj a s aw j;2ax a l aw n g fu j;8r j;2gu a kl;2fq a r WITHIN;2ROHINGYA ax;2bn ba;2DAL a s aw n;2SAD a s aw n;
   2GAF a cv y;2iq fq;2mn a cv V j;2gf a s aw n;2gy a r n;2QAF a r n g NO aw j;2BEH a c aj j;2PEH a c aj j;
   2TEH a c TEH j;2gu a c fl j;2ax a l aw n g c fl j;2AFRICAN FEH;3QAF;3fl;2PEH a c V;2TEH a c V;2TTEH a c V;
   2TCHEH a c V;2KEHEH a c V;2ku a s aw j;2AFRICAN QAF a s aw j;2bx a s aw j;6n;2ft a c jp b TAH j;2GRAF;
   1c FARSI ax;2cf FARSI ax;3ax BARREE a l aw n;3ml SAH;3ZAH;1cq oo r j;4n;1SUKUN n;1cq av n;2oo r jv av n;
   1c bn fq;2cf ml AR-RUB;3SAD;3gf;3QAF;3fl a ni;2bn fl a ni;2cf ml ATH-THALATHA;4AS-SAJDA;4AN-NISF;4SAKTA;4QIF;
   4WAQFA;3FOOTNOTE sa;3f SAFHA;1DISPUTED fs OF AYAH;1by pr n;1hw oc;2pr;2ni;2ui;2vm;2vu;1cd m r j;2l aw j;2kl j;
   2m r n;2l aw n;2kl n;1bw ui;2vm;2vu;1c cf fq;1oc a bi;3r j;1ni a r n;1k cp j;1i cp j;1k cp n;1i cp n;1p i cp j;
   5a r;1i cp j a r;1pr a r;1q rb fl GHUNNA;0DEVANAGARI f cv go;2go;2ed;2fw;1b ec A;2A;2AA;2I;2II;2U;2UU;2dl R;3L;
   2lv E;2ec E;2E;2AI;2lv O;2ec O;2O;2AU;2KA;2cw;2GA;2eg;2ck;2CA;2cs;2JA;2fv;2cu;2ee;2fb;2ef;2ff;2eq;2TA;2df;2DA;
   2eh;2NA;2NNNA;2PA;2dq;2BA;2er;2MA;2YA;2RA;2RRA;2LA;2hp;2LLLA;2VA;2cl;2fc;2SA;2HA;1bf f OE;3OOE;1f ig;2lf;
   1bf f AA;3I;3II;3U;3UU;3dl R;4RR;3lv E;3ec E;3E;3AI;3lv O;3ec O;3O;3AU;1f fe;1bf f zf E;3AW;1OM;
   1STRESS f UDATTA;3ve;1cr fi;1bo fi;1bf f lv bz E;3UE;3UUE;1b QA;2KHHA;2GHHA;2ZA;2DDDHA;2RHA;2FA;2YYA;2dl RR;3LL;
   1bf f dl L;4LL;1gx;1p gx;1bh bt;2m;2l;2s;2w;2aa;2ag;2ao;2ah;2ar;1jz f;1f cf SPACING r;1b lv A;2OE;2OOE;2AW;2UE;
   2UUE;2MARWARI ef;2ZHA;2ad YA;2GGA;2JJA;2hm cn;2DDDA;2BBA;0BENGALI ANJI;1f go;2ed;2fw;@985 1b A;2AA;2I;2II;2U;
   2UU;2dl R;3L;@98F 2E;2AI;@993 2O;2AU;2KA;2cw;2GA;2eg;2ck;2CA;2cs;2JA;2fv;2cu;2ee;2fb;2ef;2ff;2eq;2TA;2df;2DA;
   2eh;2NA;@9AA 2PA;2dq;2BA;2er;2MA;2YA;2RA;@9B2 2LA;@9B6 2cl;2fc;2SA;2HA;@9BC 1f ig;2lf;1bf f AA;3I;3II;3U;3UU;
   3dl R;4RR;@9C7 3E;3AI;@9CB 3O;3AU;1f fe;1b KHANDA TA;@9D7 1AU md q;@9DC 1b RRA;2RHA;@9DF 2YYA;2dl RR;3LL;
   1bf f dl L;4LL;@9E6 1bh bt;2m;2l;2s;2w;2aa;2ag;2ao;2ah;2ar;1b RA a ae ep;4bk ep;1RUPEE q;2f;1vl NUMERATOR m;3l;
   3s;3w;3m LESS THAN fp DENOMINATOR;2DENOMINATOR qg;1ISSHAR;1GANDA q;1b VEDIC ed;1jz f;1SANDHI q;
   @A01 0GURMUKHI f ADAK BINDI;2BINDI;2fw;@A05 1b A;2AA;2I;2II;2U;2UU;@A0F 2EE;2AI;@A13 2OO;2AU;2KA;2cw;2GA;2eg;
   2ck;2CA;2cs;2JA;2fv;2cu;2ee;2fb;2ef;2ff;2eq;2TA;2df;2DA;2eh;2NA;@A2A 2PA;2dq;2BA;2er;2MA;2YA;2RA;@A32 2LA;2hp;
   @A35 2VA;2cl;@A38 2SA;2HA;@A3C 1f ig;@A3E 1bf f AA;3I;3II;3U;3UU;@A47 3EE;3AI;@A4B 3OO;3AU;1f fe;@A51 2UDAAT;
   @A59 1b KHHA;2GHHA;2ZA;2RRA;@A5E 2FA;@A66 1bh bt;2m;2l;2s;2w;2aa;2ag;2ao;2ah;2ar;1TIPPI;1ADDAK;1IRI;1URA;
   1EK ONKAR;1f YAKASH;1jz f;@A81 0GUJARATI f go;2ed;2fw;@A85 1b A;2AA;2I;2II;2U;2UU;2dl R;3L;1bf lv E;@A8F 1b E;
   2AI;1bf lv O;@A93 1b O;2AU;2KA;2cw;2GA;2eg;2ck;2CA;2cs;2JA;2fv;2cu;2ee;2fb;2ef;2ff;2eq;2TA;2df;2DA;2eh;2NA;
   @AAA 2PA;2dq;2BA;2er;2MA;2YA;2RA;@AB2 2LA;2hp;@AB5 2VA;2cl;2fc;2SA;2HA;@ABC 1f ig;2lf;1bf f AA;3I;3II;3U;3UU;
   3dl R;4RR;3lv E;@AC7 3E;3AI;3lv O;@ACB 3O;3AU;1f fe;@AD0 1OM;@AE0 1b dl RR;3LL;1bf f dl L;4LL;@AE6 1bh bt;2m;2l;
   2s;2w;2aa;2ag;2ao;2ah;2ar;1jz f;1RUPEE f;@AF9 1b ZHA;1f SUKUN;2SHADDA;2MADDAH;2THREE-DOT ig j;2av ig j;
   2TWO-CIRCLE ig j;@B01 0ORIYA f go;2ed;2fw;@B05 1b A;2AA;2I;2II;2U;2UU;2dl R;3L;@B0F 2E;2AI;@B13 2O;2AU;2KA;2cw;
   2GA;2eg;2ck;2CA;2cs;2JA;2fv;2cu;2ee;2fb;2ef;2ff;2eq;2TA;2df;2DA;2eh;2NA;@B2A 2PA;2dq;2BA;2er;2MA;2YA;2RA;
   @B32 2LA;2hp;@B35 2VA;2cl;2fc;2SA;2HA;@B3C 1f ig;2lf;1bf f AA;3I;3II;3U;3UU;3dl R;4RR;@B47 3E;3AI;@B4B 3O;3AU;
   1f fe;@B55 2sg;1AI md q;1AU md q;@B5C 1b RRA;2RHA;@B5F 2YYA;2dl RR;3LL;1bf f dl L;4LL;@B66 1bh bt;2m;2l;2s;2w;
   2aa;2ag;2ao;2ah;2ar;1ISSHAR;1b WA;1jt m gj;3ap;2s mh;2m ux;3hu;2s yj;@B82 0TAMIL f ed;2fw;@B85 1b A;2AA;2I;2II;
   2U;2UU;@B8E 2E;2EE;2AI;@B92 2O;2OO;2AU;2KA;@B99 2ck;2CA;@B9C 2JA;@B9E 2cu;2ee;@BA3 2eq;2TA;@BA8 2NA;2NNNA;2PA;
   @BAE 2MA;2YA;2RA;2RRA;2LA;2hp;2LLLA;2VA;2cl;2fc;2SA;2HA;@BBE 1bf f AA;3I;3II;3U;3UU;@BC6 3E;3EE;3AI;@BCA 3O;3OO;
   3AU;1f fe;@BD0 1OM;@BD7 1AU md q;@BE6 1bh bt;2m;2l;2s;2w;2aa;2ag;2ao;2ah;2ar;1cz ca;2m aq;3az;1DAY f;1MONTH f;
   1YEAR f;1DEBIT f;1CREDIT f;1AS j f;1RUPEE f;1cz f;@C00 0TELUGU f fj go j;2go;2ed;2fw;2fj ed j;1b A;2AA;2I;2II;
   2U;2UU;2dl R;3L;@C0E 2E;2EE;2AI;@C12 2O;2OO;2AU;2KA;2cw;2GA;2eg;2ck;2CA;2cs;2JA;2fv;2cu;2ee;2fb;2ef;2ff;2eq;2TA;
   2df;2DA;2eh;2NA;@C2A 2PA;2dq;2BA;2er;2MA;2YA;2RA;2RRA;2LA;2hp;2LLLA;2VA;2cl;2fc;2SA;2HA;@C3C 1f ig;2lf;1bf f AA;
   3I;3II;3U;3UU;3dl R;4RR;@C46 3E;3EE;3AI;@C4A 3O;3OO;3AU;1f fe;@C55 1md q;1AI md q;@C58 1b hc;2DZA;2RRRA;
   @C5D 2NAKAARA POLLU;@C60 2dl RR;3LL;1bf f dl L;4LL;@C66 1bh bt;2m;2l;2s;2w;2aa;2ag;2ao;2ah;2ar;@C77 1f tp;
   1jt bh bt fk ODD tn OF w;3m fk ODD tn OF w;3l fk ODD tn OF w;3s fk ODD tn OF w;3m fk EVEN tn OF w;
   3l fk EVEN tn OF w;3s fk EVEN tn OF w;1f TUUMU;0KANNADA f SPACING go;2go;2ed;2fw;2tp;1b A;2AA;2I;2II;2U;2UU;
   2dl R;3L;@C8E 2E;2EE;2AI;@C92 2O;2OO;2AU;2KA;2cw;2GA;2eg;2ck;2CA;2cs;2JA;2fv;2cu;2ee;2fb;2ef;2ff;2eq;2TA;2df;
   2DA;2eh;2NA;@CAA 2PA;2dq;2BA;2er;2MA;2YA;2RA;2RRA;2LA;2hp;@CB5 2VA;2cl;2fc;2SA;2HA;@CBC 1f ig;2lf;1bf f AA;3I;
   3II;3U;3UU;3dl R;4RR;@CC6 3E;3EE;3AI;@CCA 3O;3OO;3AU;1f fe;@CD5 1md q;1AI md q;@CDD 1b NAKAARA POLLU;2FA;
   @CE0 2dl RR;3LL;1bf f dl L;4LL;@CE6 1bh bt;2m;2l;2s;2w;2aa;2ag;2ao;2ah;2ar;@CF1 1f uq;2vb;
   @D00 0MALAYALAM f fj ed j;2go;2ed;2fw;1b VEDIC ed;2A;2AA;2I;2II;2U;2UU;2dl R;3L;@D0E 2E;2EE;2AI;@D12 2O;2OO;2AU;
   2KA;2cw;2GA;2eg;2ck;2CA;2cs;2JA;2fv;2cu;2ee;2fb;2ef;2ff;2eq;2TA;2df;2DA;2eh;2NA;2NNNA;2PA;2dq;2BA;2er;2MA;2YA;
   2RA;2RRA;2LA;2hp;2LLLA;2VA;2cl;2fc;2SA;2HA;2TTTA;1f af ak fe;2vj fe;2lf;1bf f AA;3I;3II;3U;3UU;3dl R;4RR;
   @D46 3E;3EE;3AI;@D4A 3O;3OO;3AU;1f fe;1b r REPH;1f PARA;@D54 1b CHILLU M;3Y;3LLL;1AU md q;1jt m zt;3FORTIETH;
   2s EIGHTIETHS;2m TWENTIETH;3TENTH;2s TWENTIETHS;2m FIFTH;1b jq II;2dl RR;3LL;1bf f dl L;4LL;@D66 1bh bt;2m;2l;
   2s;2w;2aa;2ag;2ao;2ah;2ar;1cz ca;2m aq;3az;1jt m gj;3ap;2s mh;2m ux;3hu;2s yj;1DATE q;1b CHILLU NN;3N;3RR;3L;
   3LL;3K;@D81 0SINHALA f go;2ANUSVARAYA;2VISARGAYA;@D85 1b AYANNA;2AAYANNA;2AEYANNA;2AEEYANNA;2IYANNA;2IIYANNA;
   2UYANNA;2UUYANNA;2IRUYANNA;2IRUUYANNA;2ILUYANNA;2ILUUYANNA;2EYANNA;2EEYANNA;2AIYANNA;2OYANNA;2OOYANNA;2AUYANNA;
   @D9A 2pk KAYANNA;2pz KAYANNA;2pk GAYANNA;2pz GAYANNA;2KANTAJA NAASIKYAYA;2SANYAKA GAYANNA;2pk CAYANNA;
   2pz CAYANNA;2pk JAYANNA;2pz JAYANNA;2TAALUJA NAASIKYAYA;3SANYOOGA NAAKSIKYAYA;2SANYAKA JAYANNA;2pk TTAYANNA;
   2pz TTAYANNA;2pk DDAYANNA;2pz DDAYANNA;2MUURDHAJA NAYANNA;2SANYAKA DDAYANNA;2pk TAYANNA;2pz TAYANNA;2pk DAYANNA;
   2pz DAYANNA;2DANTAJA NAYANNA;@DB3 2SANYAKA DAYANNA;2pk PAYANNA;2pz PAYANNA;2pk BAYANNA;2pz BAYANNA;2MAYANNA;
   2AMBA BAYANNA;2YAYANNA;2RAYANNA;@DBD 2DANTAJA LAYANNA;@DC0 2VAYANNA;2TAALUJA SAYANNA;2MUURDHAJA SAYANNA;
   2DANTAJA SAYANNA;2HAYANNA;2MUURDHAJA LAYANNA;2FAYANNA;@DCA 1f AL-LAKUNA;@DCF 1bf f AELA-PILLA;3KETTI AEDA-PILLA;
   3DIGA AEDA-PILLA;3KETTI IS-PILLA;3DIGA IS-PILLA;3KETTI PAA-PILLA;@DD6 3DIGA PAA-PILLA;@DD8 3GAETTA-PILLA;
   3KOMBUVA;3DIGA KOMBUVA;3KOMBU DEKA;3KOMBUVA HAA AELA-PILLA;5DIGA AELA-PILLA;5GAYANUKITTA;3GAYANUKITTA;
   @DE6 1LITH bh bt;3m;3l;3s;3w;3aa;3ag;3ao;3ah;3ar;@DF2 1bf f DIGA GAETTA-PILLA;4GAYANUKITTA;1eu KUNDDALIYA;
   @E01 0THAI lg KO KAI;2KHO KHAI;3KHUAT;3KHWAI;3KHON;3RAKHANG;2NGO NGU;2CHO CHAN;3CHING;3CHANG;2SO SO;2CHO CHOE;
   2YO YING;2DO CHADA;2TO PATAK;2THO THAN;3NANGMONTHO;3PHUTHAO;2NO NEN;2DO DEK;2TO TAO;2THO THUNG;3THAHAN;3THONG;
   2NO NU;2BO BAIMAI;2PO PLA;2PHO PHUNG;2FO FA;2PHO PHAN;2FO FAN;2PHO SAMPHAO;2MO MA;2YO YAK;2RO RUA;2RU;2LO LING;
   2LU;2WO WAEN;2SO SALA;3RUSI;3SUA;2HO HIP;2LO CHULA;2O ANG;2HO NOKHUK;2PAIYANNOI;2SARA A;2MAI HAN-AKAT;2SARA AA;
   3AM;3I;3II;3UE;3UEE;3U;3UU;2PHINTHU;@E3F 1vl z BAHT;1lg SARA E;3AE;3O;3AI MAIMUAN;4MAIMALAI;2LAKKHANGYAO;
   2MAIYAMOK;2MAITAIKHU;2MAI EK;3THO;3TRI;3CHATTAWA;2THANTHAKHAT;2NIKHAHIT;2YAMAKKAN;2FONGMAN;1bh bt;2m;2l;2s;2w;
   2aa;2ag;2ao;2ah;2ar;1lg ANGKHANKHU;2KHOMUT;@E81 0LAO b KO;2KHO SUNG;@E84 3TAM;@E86 2PALI eg;2NGO;2CO;2PALI cs;
   2SO TAM;@E8C 2PALI fv;2NYO;2PALI cu;3ee;3fb;3ef;3ff;3eq;2DO;2TO;2THO SUNG;3TAM;2PALI eh;2NO;2BO;2PO;2PHO SUNG;
   2FO TAM;2PHO TAM;2FO SUNG;2PALI er;2MO;2YO;2LO LING;@EA5 3LOOT;@EA7 2WO;2SANSKRIT cl;3fc;2SO SUNG;2HO SUNG;
   2PALI hp;2O;2HO TAM;1rp;1bf f A;3MAI KAN;3AA;3AM;3I;3II;3Y;3YY;3U;3UU;1f PALI fe;1bf f MAI KON;1SEMIVOWEL f LO;
   3NYO;@EC0 1bf f E;3EI;3O;3AY;3AI;@EC6 1KO LA;@EC8 1cd MAI EK;3THO;3TI;3CATAWA;1wt q;1NIGGAHITA;@ED0 1bh bt;2m;
   2l;2s;2w;2aa;2ag;2ao;2ah;2ar;@EDC 1HO NO;2MO;1b KHMU GO;3NYO;@F00 0TIBETAN lb OM;1q GTER YIG MGO TRUNCATED A;
   5-UM RNAM BCAD MA;6GTER pi MA;2ab YIG MGO MDUN MA;2CLOSING YIG MGO SGAB MA;2pp YIG MGO PHUR lr MA;
   2YIG MGO pi lr MA;2SBRUL lr;2BSKUR YIG MGO;2BKA- SHOG YIG MGO;2INTERSYLLABIC pi;2ww pi BSTAR;2lr;2NYIS lr;
   2pi lr;2NYIS pi lr;2RIN CHEN SPUNGS lr;2RGYA GRAM lr;2pp -DZUD op ME bz CAN;2GTER pi;1LOGOTYPE f CHAD op;
   3LHAG op;1ASTROLOGICAL f SGRA GCAN -CHAR op;3-KHYUD PA;3SDONG TSHUGS;1f RDEL DKAR GCIG;4GNYIS;4GSUM;3NAG GCIG;
   4GNYIS;3DKAR RDEL NAG;1bh bt;2m;2l;2s;2w;2aa;2ag;2ao;2ah;2ar;2ap m;3l;3s;3w;3aa;3ag;3ao;3ah;3ar;3bt;1q BSDUS op;
   2NGAS BZUNG NYI ZLA;2pp -DZUD op BZHI MIG CAN;2NGAS BZUNG SGOR op;2CHE MGO;2hc -PHRU;2GUG op GYON;4GYAS;
   2ANG KHANG GYON;4GYAS;1f YAR TSHES;2MAR TSHES;1b KA;2cw;2GA;2eg;2ck;2CA;2cs;2JA;@F49 2cu;2ee;2fb;2ef;2ff;2eq;
   2TA;2df;2DA;2eh;2NA;2PA;2dq;2BA;2er;2MA;2hc;2mk;2DZA;2DZHA;2WA;2ZHA;2ZA;2-A;2YA;2RA;2LA;2cl;2fc;2SA;2HA;2A;
   2KSSA;2FIXED-FORM RA;2KKA;2RRA;@F71 1bf f AA;3I;3II;3U;3UU;3dl R;4RR;4L;4LL;3E;3EE;3O;3OO;1f RJES SU ck RO;
   2RNAM BCAD;1bf f ch I;4II;1f NYI ZLA NAA DA;2SNA LDAN;1q HALANTA;2PALUTA;1f LCI op;2YANG op;2LCE hc CAN;
   2MCHU CAN;2GRU CAN RGYINGS;3MED RGYINGS;2cv MCHU CAN;1uy f LCE hc CAN;3MCHU CAN;3cv MCHU CAN;2b KA;3cw;3GA;3eg;
   3ck;3CA;3cs;3JA;@F99 3cu;3ee;3fb;3ef;3ff;3eq;3TA;3df;3DA;3eh;3NA;3PA;3dq;3BA;3er;3MA;3hc;3mk;3DZA;3DZHA;3WA;
   3ZHA;3ZA;3-A;3YA;3RA;3LA;3cl;3fc;3SA;3HA;3A;3KSSA;3FIXED-FORM WA;4YA;4RA;@FBE 1KU RU cw;4BZHI MIG CAN;
   1CANTILLATION f ad BEAT;3be BEAT;3CANG TE-U;3SBUB -CHAL;1z DRIL BU;2RDO RJE;2PADMA GDAN;2RDO RJE RGYA GRAM;
   2PHUR PA;2NOR BU;4NYIS -KHYIL;4GSUM -KHYIL;4BZHI -KHYIL;@FCE 1f RDEL NAG RDEL DKAR;4GSUM;
   1q BSKA- SHOG GI MGO RGYAN;2MNYAM YIG GI MGO RGYAN;2NYIS pi;2ab BRDA RNYING YIG MGO MDUN MA;
   2CLOSING BRDA RNYING YIG MGO SGAB MA;0yd SVASTI f;0xl SVASTI f;0yd SVASTI f a aw;0xl SVASTI f a aw;
   0TIBETAN q LEADING MCHAN op;2TRAILING MCHAN op;@1000 0MYANMAR b KA;2cw;2GA;2eg;2ck;2CA;2cs;2JA;2fv;2cu;2NNYA;
   2ee;2fb;2ef;2ff;2eq;2TA;2df;2DA;2eh;2NA;2PA;2dq;2BA;2er;2MA;2YA;2RA;2LA;2WA;2SA;2HA;2hp;2A;2SHAN A;2I;2II;2U;
   2UU;2E;2MON E;2O;2AU;1bf f TALL AA;3AA;3I;3II;3U;3UU;3E;3AI;3MON II;4O;3E j;1f ed;2r n;2fw;2fe;2ASAT;
   1it f bs YA;4RA;4WA;4HA;1b GREAT SA;1bh bt;2m;2l;2s;2w;2aa;2ag;2ao;2ah;2ar;1f dp in;2in;1z LOCATIVE;2COMPLETED;
   2AFOREMENTIONED;2GENITIVE;1b cl;2fc;2dl R;3RR;3L;3LL;1bf f dl R;4RR;4L;4LL;1b MON ck;3fv;3BBA;3BBE;
   1it f MON bs NA;5MA;5LA;1b SGAW KAREN cl;1bf f SGAW KAREN EU;1cd q SGAW KAREN HATHI;5KE PHO;
   1b WESTERN PWO KAREN df;5PWA;1bf f WESTERN PWO KAREN EU;6UE;1f WESTERN PWO KAREN TONE-1;+4;
   1b EASTERN PWO KAREN eq;5YWA;5GHWA;1bf f GEBA KAREN I;3KAYAH OE;4U;4EE;1b SHAN KA;3cw;3GA;3CA;3ZA;3cu;3DA;3NA;
   3dq;3FA;3BA;3df;3HA;1it f SHAN bs WA;1bf f SHAN AA;4E;5j;4o Y;1f SHAN TONE-2;+1;3TONE-5;+1;3COUNCIL TONE-2;+1;
   4EMPHATIC cd;1b RUMAI PALAUNG FA;1f RUMAI PALAUNG TONE-5;1SHAN bh bt;3m;3l;3s;3w;3aa;3ag;3ao;3ah;3ar;
   1f KHAMTI TONE-1;3TONE-3;1bf f AITON A;4AI;1z SHAN m;3hy;0vp e b AN;3BAN;3GAN;3DON;3EN;3VIN;3ZEN;3TAN;3IN;3KAN;
   3LAS;3MAN;3NAR;3ON;3PAR;3ZHAR;3RAE;3SAN;3TAR;3UN;3PHAR;3KHAR;3GHAN;3QAR;3hb;3CHIN;3CAN;3JIL;3CIL;3CHAR;3XAN;
   3JHAN;3HAE;3HE;3HIE;3WE;3HAR;3HOE;@10C7 3YN;@10CD 3AEN;@10D0 1b AN;2BAN;2GAN;2DON;2EN;2VIN;2ZEN;2TAN;2IN;2KAN;
   2LAS;2MAN;2NAR;2ON;2PAR;2ZHAR;2RAE;2SAN;2TAR;2UN;2PHAR;2KHAR;2GHAN;2QAR;2hb;2CHIN;2CAN;2JIL;2CIL;2CHAR;2XAN;
   2JHAN;2HAE;2HE;2HIE;2WE;2HAR;2HOE;2FI;2YN;2ELIFI;2by GAN;2gf;1we gv;0gz b vp NAR;0vp b AEN;2HARD f;2LABIAL f;
   0pu CHOSEONG rx;2yl;2NIEUN;2sv;2yn;2RIEUL;2MIEUM;2PIEUP;2ym;2SIOS;2SSANGSIOS;2IEUNG;2CIEUC;2yk;2rh;2rw;2ss;2sk;
   2HIEUH;2NIEUN-KIYEOK;2SSANGNIEUN;2zb;2NIEUN-PIEUP;2TIKEUT-KIYEOK;2RIEUL-NIEUN;2SSANGRIEUL;2xy;2KAPYEOUNRIEUL;
   2MIEUM-PIEUP;2yx;2PIEUP-KIYEOK;2PIEUP-NIEUN;2ze;2xv;2zu;2zd;2PIEUP-SIOS-PIEUP;2PIEUP-SSANGSIOS;
   2PIEUP-SIOS-CIEUC;2PIEUP-CIEUC;2PIEUP-CHIEUCH;2PIEUP-THIEUTH;2PIEUP-PHIEUPH;2yz;2zr;2SIOS-KIYEOK;2SIOS-NIEUN;
   2SIOS-TIKEUT;2SIOS-RIEUL;2SIOS-MIEUM;2SIOS-PIEUP;2SIOS-PIEUP-KIYEOK;2SIOS-SSANGSIOS;2SIOS-IEUNG;2SIOS-CIEUC;
   2SIOS-CHIEUCH;2SIOS-KHIEUKH;2SIOS-THIEUTH;2SIOS-PHIEUPH;2SIOS-HIEUH;2CHITUEUMSIOS;2CHITUEUMSSANGSIOS;
   2CEONGCHIEUMSIOS;2CEONGCHIEUMSSANGSIOS;2PANSIOS;2IEUNG-KIYEOK;2IEUNG-TIKEUT;2IEUNG-MIEUM;2IEUNG-PIEUP;
   2IEUNG-SIOS;2IEUNG-PANSIOS;2SSANGIEUNG;2IEUNG-CIEUC;2IEUNG-CHIEUCH;2IEUNG-THIEUTH;2IEUNG-PHIEUPH;2YESIEUNG;
   2CIEUC-IEUNG;2CHITUEUMCIEUC;2CHITUEUMSSANGCIEUC;2CEONGCHIEUMCIEUC;2CEONGCHIEUMSSANGCIEUC;2CHIEUCH-KHIEUKH;
   2CHIEUCH-HIEUH;2CHITUEUMCHIEUCH;2CEONGCHIEUMCHIEUCH;2PHIEUPH-PIEUP;2yy;2SSANGHIEUH;2YEORINHIEUH;2KIYEOK-TIKEUT;
   2NIEUN-SIOS;2xq;2xr;2TIKEUT-RIEUL;2qu;1JUNGSEONG qu;2A;2AE;2YA;2YAE;2EO;2E;2YEO;2YE;2O;2WA;2WAE;2OE;2YO;2U;2WEO;
   2WE;2WI;2YU;2EU;2YI;2I;2A-O;2A-U;2YA-O;2YA-YO;2EO-O;2EO-U;2EO-EU;2YEO-O;2YEO-U;2O-EO;2O-E;2O-YE;2O-O;2O-U;
   2YO-YA;2YO-YAE;2YO-YEO;2YO-O;2YO-I;2U-A;2U-AE;2U-EO-EU;2U-YE;2U-U;2YU-A;2YU-EO;2YU-E;2YU-YEO;2YU-YE;2YU-U;2YU-I;
   2EU-U;2EU-EU;2YI-U;2I-A;2I-YA;2I-O;2I-U;2I-EU;2I-ARAEA;2ARAEA;2ARAEA-EO;2ARAEA-U;2ARAEA-I;2SSANGARAEA;2A-EU;
   2YA-U;2YEO-YA;2O-YA;2O-YAE;1JONGSEONG rx;2yl;2KIYEOK-SIOS;2NIEUN;2xq;2xr;2sv;2RIEUL;2xz;2ya;2yb;2yc;2zh;2zg;2xy;
   2MIEUM;2PIEUP;2xv;2SIOS;2SSANGSIOS;2IEUNG;2CIEUC;2rh;2rw;2ss;2sk;2HIEUH;2KIYEOK-RIEUL;2KIYEOK-SIOS-KIYEOK;
   2NIEUN-KIYEOK;2zb;2NIEUN-SIOS;2NIEUN-PANSIOS;2NIEUN-THIEUTH;2TIKEUT-KIYEOK;2TIKEUT-RIEUL;2zw;2RIEUL-NIEUN;2zi;
   2RIEUL-TIKEUT-HIEUH;2SSANGRIEUL;2RIEUL-MIEUM-KIYEOK;2RIEUL-MIEUM-SIOS;2zx;2RIEUL-PIEUP-HIEUH;2zv;
   2RIEUL-SSANGSIOS;2RIEUL-PANSIOS;2RIEUL-KHIEUKH;2zz;2MIEUM-KIYEOK;2MIEUM-RIEUL;2MIEUM-PIEUP;2MIEUM-SIOS;
   2MIEUM-SSANGSIOS;2MIEUM-PANSIOS;2MIEUM-CHIEUCH;2MIEUM-HIEUH;2yx;2PIEUP-RIEUL;2PIEUP-PHIEUPH;2PIEUP-HIEUH;2yz;
   2SIOS-KIYEOK;2SIOS-TIKEUT;2SIOS-RIEUL;2SIOS-PIEUP;2PANSIOS;2IEUNG-KIYEOK;2IEUNG-SSANGKIYEOK;2SSANGIEUNG;
   2IEUNG-KHIEUKH;2YESIEUNG;2YESIEUNG-SIOS;2YESIEUNG-PANSIOS;2PHIEUPH-PIEUP;2yy;2HIEUH-NIEUN;2HIEUH-RIEUL;
   2HIEUH-MIEUM;2HIEUH-PIEUP;2YEORINHIEUH;2KIYEOK-NIEUN;2KIYEOK-PIEUP;2KIYEOK-CHIEUCH;2KIYEOK-KHIEUKH;
   2KIYEOK-HIEUH;2SSANGNIEUN;0ETHIOPIC lb HA;2HU;2HI;2HAA;2HEE;2HE;2HO;2HOA;2LA;2LU;2LI;2LAA;2LEE;2LE;2LO;2LWA;
   2HHA;2HHU;2HHI;2HHAA;2HHEE;2HHE;2HHO;2HHWA;2MA;2MU;2MI;2MAA;2MEE;2ME;2MO;2MWA;2SZA;2SZU;2SZI;2SZAA;2SZEE;2SZE;
   2SZO;2SZWA;2RA;2RU;2RI;2RAA;2REE;2RE;2RO;2RWA;2SA;2SU;2SI;2SAA;2SEE;2SE;2SO;2SWA;2cl;2SHU;2SHI;2SHAA;2SHEE;2gd;
   2SHO;2SHWA;2QA;2QU;2QI;2QAA;2QEE;2QE;2QO;2QOA;2QWA;@124A 2QWI;2QWAA;2QWEE;2QWE;@1250 2QHA;2QHU;2QHI;2QHAA;2QHEE;
   2QHE;2QHO;@1258 2QHWA;@125A 2QHWI;2QHWAA;2QHWEE;2QHWE;@1260 2BA;2BU;2BI;2BAA;2BEE;2BE;2BO;2BWA;2VA;2VU;2VI;2VAA;
   2VEE;2VE;2VO;2VWA;2TA;2TU;2TI;2TAA;2TEE;2TE;2TO;2TWA;2CA;2CU;2CI;2CAA;2CEE;2CE;2CO;2CWA;2XA;2XU;2XI;2XAA;2XEE;
   2XE;2XO;2XOA;2XWA;@128A 2XWI;2XWAA;2XWEE;2XWE;@1290 2NA;2NU;2NI;2NAA;2NEE;2NE;2NO;2NWA;2cu;2NYU;2NYI;2NYAA;
   2NYEE;2NYE;2NYO;2NYWA;2hm A;3U;3I;3AA;3EE;3E;3O;3WA;2KA;2KU;2KI;2KAA;2KEE;2KE;2KO;2KOA;2KWA;@12B2 2KWI;2KWAA;
   2KWEE;2KWE;@12B8 2KXA;2KXU;2KXI;2KXAA;2KXEE;2KXE;2KXO;@12C0 2KXWA;@12C2 2KXWI;2KXWAA;2KXWEE;2KXWE;@12C8 2WA;2WU;
   2WI;2WAA;2WEE;2WE;2WO;2WOA;2PHARYNGEAL A;3U;3I;3AA;3EE;3E;3O;@12D8 2ZA;2ZU;2ZI;2ZAA;2ZEE;2ZE;2ZO;2ZWA;2ZHA;2ZHU;
   2ZHI;2ZHAA;2ZHEE;2ZHE;2ZHO;2ZHWA;2YA;2YU;2YI;2YAA;2YEE;2YE;2YO;2YOA;2DA;2DU;2DI;2DAA;2DEE;2DE;2DO;2DWA;2ef;2DDU;
   2DDI;2DDAA;2DDEE;2DDE;2DDO;2DDWA;2JA;2JU;2JI;2JAA;2JEE;2JE;2JO;2JWA;2GA;2GU;2GI;2GAA;2GEE;2GE;2GO;2GOA;2GWA;
   @1312 2GWI;2GWAA;2GWEE;2GWE;@1318 2GGA;2GGU;2GGI;2GGAA;2GGEE;2GGE;2GGO;2GGWAA;2df;2THU;2THI;2THAA;2THEE;2fp;
   2THO;2THWA;2cs;2CHU;2CHI;2CHAA;2CHEE;2CHE;2CHO;2CHWA;2dq;2PHU;2PHI;2PHAA;2PHEE;2PHE;2PHO;2PHWA;2hc;2TSU;2TSI;
   2TSAA;2TSEE;2TSE;2TSO;2TSWA;2TZA;2TZU;2TZI;2TZAA;2TZEE;2TZE;2TZO;2TZOA;2FA;2FU;2FI;2FAA;2FEE;2FE;2FO;2FWA;2PA;
   2PU;2PI;2PAA;2PEE;2PE;2PO;2PWA;2RYA;2MYA;2FYA;@135D 1fj vo g bf md q;2bf md q;2vo q;1in q;1WORDSPACE;1eb cn;1de;
   1oq;1gm;1PREFACE gm;1hj q;1we gv;1bh m;2l;2s;2w;2aa;2ag;2ao;2ah;2ar;1cz ca;2fd;2jg;2ke;2gh;2ky;2gc;2lx;2fn;2aq;
   2ca az;@1380 1lb SEBATBEIT MWA;2MWI;2MWEE;2MWE;2SEBATBEIT BWA;2BWI;2BWEE;2BWE;2SEBATBEIT FWA;2FWI;2FWEE;2FWE;
   2SEBATBEIT PWA;2PWI;2PWEE;2PWE;1TONAL q YIZET;3DERET;3RIKRIK;3ec RIKRIK;3DIFAT;3KENAT;3CHIRET;3HIDET;
   3DERET-HIDET;3KURT;@13A0 0CHEROKEE b A;2E;2I;2O;2U;2V;2GA;2KA;2GE;2GI;2GO;2GU;2GV;2HA;2HE;2HI;2HO;2HU;2HV;2LA;
   2LE;2LI;2LO;2LU;2LV;2MA;2ME;2MI;2MO;2MU;2NA;2HNA;2NAH;2NE;2NI;2NO;2NU;2NV;2QUA;2QUE;2QUI;2QUO;2QUU;2QUV;2SA;2S;
   2SE;2SI;2SO;2SU;2SV;2DA;2TA;2DE;2TE;2DI;2TI;2DO;2DU;2DV;2DLA;2TLA;2TLE;2TLI;2TLO;2TLU;2TLV;2hc;2TSE;2TSI;2TSO;
   2TSU;2TSV;2WA;2WE;2WI;2WO;2WU;2WV;2YA;2YE;2YI;2YO;2YU;2YV;2MV;@13F8 1c b YE;3YI;3YO;3YU;3YV;3MV;
   @1400 0CANADIAN SYLLABICS oe;2E;2AAI;2I;2II;2O;2OO;2ov OO;2ow EE;3I;2A;2AA;2WE;2bu WE;2WI;2bu WI;2WII;2bu WII;
   2WO;2bu WO;2WOO;2bu WOO;2qa WOO;2WA;2bu WA;2WAA;2bu WAA;2qa WAA;2AI;2ov W;2hm cn;2o bo;3cr;3gk ap bi;3fa ap bi;
   3i ap bi;3bi;3p bo;4ec af STROKES;3ae r;3ec bd y;3al;3an ge;2EN;2IN;2ON;2AN;2PE;2PAAI;2PI;2PII;2PO;2POO;2ov POO;
   2ow HEE;3HI;2PA;2PAA;2PWE;2bu PWE;2PWI;2bu PWI;2PWII;2bu PWII;2PWO;2bu PWO;2PWOO;2bu PWOO;2PWA;2bu PWA;2PWAA;
   2bu PWAA;2ov PWAA;2P;2bu P;2ow H;2TE;2TAAI;2TI;2TII;2TO;2TOO;2ov TOO;2ow DEE;3DI;2TA;2TAA;2TWE;2bu TWE;2TWI;
   2bu TWI;2TWII;2bu TWII;2l;2bu l;2TWOO;2bu TWOO;2TWA;2bu TWA;2TWAA;2bu TWAA;2qa TWAA;2T;2TTE;2TTI;2TTO;2ee;2KE;
   2KAAI;2KI;2KII;2KO;2KOO;2ov KOO;2KA;2KAA;2KWE;2bu KWE;2KWI;2bu KWI;2KWII;2bu KWII;2KWO;2bu KWO;2KWOO;2bu KWOO;
   2KWA;2bu KWA;2KWAA;2bu KWAA;2qa KWAA;2K;2KW;2SOUTH-SLAVEY KEH;3KIH;3KOH;3KAH;2CE;2CAAI;2CI;2CII;2CO;2COO;
   2ov COO;2CA;2CAA;2CWE;2bu CWE;2CWI;2bu CWI;2CWII;2bu CWII;2CWO;2bu CWO;2CWOO;2bu CWOO;2CWA;2bu CWA;2CWAA;
   2bu CWAA;2qa CWAA;2C;2ra TH;2ME;2MAAI;2MI;2MII;2MO;2MOO;2ov MOO;2MA;2MAA;2MWE;2bu MWE;2MWI;2bu MWI;2MWII;
   2bu MWII;2MWO;2bu MWO;2MWOO;2bu MWOO;2MWA;2bu MWA;2MWAA;2bu MWAA;2qa MWAA;2M;2bu M;2MH;2ATHAPASCAN M;2ra M;2NE;
   2NAAI;2NI;2NII;2NO;2NOO;2ov NOO;2NA;2NAA;2NWE;2bu NWE;2NWA;2bu NWA;2NWAA;2bu NWAA;2qa NWAA;2N;2ow NG;2NH;2LE;
   2LAAI;2LI;2LII;2LO;2LOO;2ov LOO;2LA;2LAA;2LWE;2bu LWE;2LWI;2bu LWI;2LWII;2bu LWII;2LWO;2bu LWO;2LWOO;2bu LWOO;
   2LWA;2bu LWA;2LWAA;2bu LWAA;2L;2bu L;2bs L;2SE;2SAAI;2SI;2SII;2SO;2SOO;2ov SOO;2SA;2SAA;2SWE;2bu SWE;2SWI;
   2bu SWI;2SWII;2bu SWII;2SWO;2bu SWO;2SWOO;2bu SWOO;2SWA;2bu SWA;2SWAA;2bu SWAA;2qa SWAA;2S;2ATHAPASCAN S;2SW;
   2BLACKFOOT S;2MOOSE-CREE SK;2qa SKW;3S-W;3SPWA;3STWA;3SKWA;3SCWA;2gd;2SHI;2SHII;2SHO;2SHOO;2cl;2SHAA;2SHWE;
   2bu SHWE;2SHWI;2bu SHWI;2SHWII;2bu SHWII;2SHWO;2bu SHWO;2SHWOO;2bu SHWOO;2SHWA;2bu SHWA;2SHWAA;2bu SHWAA;2SH;
   2YE;2YAAI;2YI;2YII;2YO;2YOO;2ov YOO;2YA;2YAA;2YWE;2bu YWE;2YWI;2bu YWI;2YWII;2bu YWII;2YWO;2bu YWO;2YWOO;
   2bu YWOO;2YWA;2bu YWA;2YWAA;2bu YWAA;2qa YWAA;2Y;2BIBLE-CREE Y;2bu Y;2ra YI;2RE;2R-CREE RE;2bu LE;2RAAI;2RI;
   2RII;2RO;2ROO;2bu LO;2RA;2RAA;2bu LA;2RWAA;2bu RWAA;2R;2bu R;2bs R;2FE;2FAAI;2FI;2FII;2FO;2FOO;2FA;2FAA;2FWAA;
   2bu FWAA;2F;2fp;2N-CREE fp;2THI;2N-CREE THI;2THII;2N-CREE THII;2THO;2THOO;2df;2THAA;2THWAA;2bu THWAA;2TH;2TTHE;
   2TTHI;2TTHO;2fb;2TTH;2TYE;2TYI;2TYO;2TYA;2NUNAVIK HE;3HI;3HII;3HO;3HOO;3HA;3HAA;3H;2NUNAVUT H;2HK;2QAAI;2QI;
   2QII;2QO;2QOO;2QA;2QAA;2Q;2TLHE;2TLHI;2TLHO;2TLHA;2bu RE;3RI;3RO;3RA;2NGAAI;2NGI;2NGII;2NGO;2NGOO;2ck;2NGAA;2NG;
   2NNG;2ra gd;3SHI;3SHO;3cl;2WOODS-CREE fp;3THI;3THO;3df;3TH;2LHI;2LHII;2LHO;2LHOO;2LHA;2LHAA;2LH;2TH-CREE fp;
   3THI;3THII;3THO;3THOO;3df;3THAA;3TH;2AIVILIK B;2BLACKFOOT E;3I;3O;3A;3WE;3WI;3WO;3WA;3NE;3NI;3NO;3NA;3KE;3KI;
   3KO;3KA;2ra HE;3HI;3HO;3HA;2ow GHU;3GHO;3GHE;3GHEE;3GHI;3eg;3RU;3RO;3RE;3REE;3RI;3RA;3WU;3WO;3WE;3WEE;3WI;3WA;
   3HWU;3HWO;3HWE;3HWEE;3HWI;3HWA;3THU;3THO;3fp;3THEE;3THI;3df;3TTU;3TTO;3TTE;3TTEE;3TTI;3ee;3PU;3PO;3PE;3PEE;3PI;
   3PA;3P;3GU;3GO;3GE;3GEE;3GI;3GA;3KHU;3KHO;3KHE;3KHEE;3KHI;3cw;3KKU;3KKO;3KKE;3KKEE;3KKI;3KKA;3KK;3NU;3NO;3NE;
   3NEE;3NI;3NA;3MU;3MO;3ME;3MEE;3MI;3MA;3YU;3YO;3YE;3YEE;3YI;3YA;3JU;2ra JU;2ow JO;3JE;3JEE;3JI;2ra JI;2ow JA;
   3JJU;3JJO;3JJE;3JJEE;3JJI;3JJA;3LU;3LO;3LE;3LEE;3LI;3LA;3DLU;3DLO;3DLE;3DLEE;3DLI;3DLA;3LHU;3LHO;3LHE;3LHEE;
   3LHI;3LHA;3TLHU;3TLHO;3TLHE;3TLHEE;3TLHI;3TLHA;3TLU;3TLO;3TLE;3TLEE;3TLI;3TLA;3ZU;3ZO;3ZE;3ZEE;3ZI;3ZA;3Z;3ab Z;
   3DZU;3DZO;3DZE;3DZEE;3DZI;3DZA;3SU;3SO;3SE;3SEE;3SI;3SA;3SHU;3SHO;3gd;3SHEE;3SHI;3cl;3SH;3TSU;3TSO;3TSE;3TSEE;
   3TSI;3hc;3CHU;3CHO;3CHE;3CHEE;3CHI;3cs;3TTSU;3TTSO;3TTSE;3TTSEE;3TTSI;3TTSA;2CHI f;2eb cn;2QAI;2NGAI;2NNGI;
   2NNGII;2NNGO;2NNGOO;2NNGA;2NNGAA;2WOODS-CREE THWEE;3THWI;3THWII;3THWO;3THWOO;3THWA;3THWAA;3o TH;2BLACKFOOT W;
   0OGHAM jf q;1b BEITH;2LUIS;2FEARN;2SAIL;2NION;2UATH;2DAIR;2TINNE;2COLL;2CEIRT;2MUIN;2GORT;2NGEADAL;2STRAIF;
   2RUIS;2AILM;2ONN;2UR;2EADHADH;2IODHADH;2EABHADH;2OR;2UILLEANN;2IFIN;2EAMHANCHOLL;2PEITH;1FEATHER q;
   1ch FEATHER q;@16A0 0RUNIC b FEHU FEOH FE F;2V;2URUZ UR U;2YR;2Y;2W;2THURISAZ THURS THORN;2ETH;2ANSUZ A;2OS O;
   2AC A;2AESC;2LONG-BRANCH-OSS O;2SHORT-TWIG-OSS O;2O;2OE;2ON;2RAIDO RAD REID R;2KAUNA;2CEN;2KAUN K;2G;2ENG;
   2GEBO GYFU G;2GAR;2WUNJO WYNN W;2HAGLAZ H;2HAEGL H;2LONG-BRANCH-HAGALL H;2SHORT-TWIG-HAGALL H;
   2NAUDIZ NYD NAUD N;2SHORT-TWIG-NAUD N;2DOTTED-N;2ISAZ IS ISS I;2E;2JERAN J;2GER;2LONG-BRANCH-AR AE;
   2SHORT-TWIG-AR A;2IWAZ EOH;2PERTHO PEORTH P;2ALGIZ EOLHX;2SOWILO S;2SIGEL LONG-BRANCH-SOL S;2SHORT-TWIG-SOL S;
   2C;2Z;2TIWAZ TIR TYR T;2SHORT-TWIG-TYR T;2D;2BERKANAN BEORC BJARKAN B;2SHORT-TWIG-BJARKAN B;2DOTTED-P;2OPEN-P;
   2EHWAZ EH E;2MANNAZ MAN M;2LONG-BRANCH-MADR M;2SHORT-TWIG-MADR M;2LAUKAZ LAGU LOGR L;2DOTTED-L;2INGWAZ;2ING;
   2DAGAZ DAEG D;2OTHALAN ETHEL O;2EAR;2IOR;2CWEORTH;2CALC;2CEALC;2STAN;2LONG-BRANCH-YR;2SHORT-TWIG-YR;
   2ICELANDIC-YR;2Q;2X;1cm eu;1nl eu;1el eu;1ARLAUG z;1TVIMADUR z;1BELGTHOR z;1b K;2SH;2OO;2FRANKS CASKET OS;4IS;
   4EH;4AC;4AESC;@1700 0TAGALOG b A;2I;2U;2KA;2GA;2ck;2TA;2DA;2NA;2PA;2BA;2MA;2YA;2RA;2LA;2WA;2SA;2HA;1bf f I;3U;
   1f fe;2PAMUDPOD;@171F 1b jq RA;0HANUNOO b A;2I;2U;2KA;2GA;2ck;2TA;2DA;2NA;2PA;2BA;2MA;2YA;2RA;2LA;2WA;2SA;2HA;
   1bf f I;3U;1f PAMUDPOD;0PHILIPPINE cm eu;1p eu;@1740 0BUHID b A;2I;2U;2KA;2GA;2ck;2TA;2DA;2NA;2PA;2BA;2MA;2YA;
   2RA;2LA;2WA;2SA;2HA;1bf f I;3U;@1760 0TAGBANWA b A;2I;2U;2KA;2GA;2ck;2TA;2DA;2NA;2PA;2BA;2MA;2YA;@176E 2LA;2WA;
   2SA;@1772 1bf f I;3U;@1780 0KHMER b KA;2cw;2KO;2KHO;2NGO;2CA;2cs;2CO;2CHO;2NYO;2DA;2fb;2DO;2TTHO;2NNO;2TA;2df;
   2TO;2THO;2NO;2BA;2dq;2PO;2PHO;2MO;2YO;2RO;2LO;2VO;2cl;2SSO;2SA;2HA;2LA;2QA;1ru bf QAQ;3QAA;3QI;3QII;3QU;3QUK;
   3QUU;3QUUV;3RY;3RYY;3LY;3LYY;3QE;3QAI;3QOO TYPE m;5l;3QAU;1bf INHERENT AQ;3AA;2f AA;3I;3II;3Y;3YY;3U;3UU;3UA;
   3OE;3YA;3IE;3E;3AE;3AI;3OO;3AU;1f NIKAHIT;2REAHMUK;2YUUKALEAPINTU;2MUUSIKATOAN;2TRIISAP;2BANTOC;2ROBAT;
   2TOANDAKHIAT;2KAKABAT;2AHSDA;2SAMYOK SANNYA;2VIRIAM;2COENG;2BATHAMASAT;2KHAN;2BARIYOOSAN;2CAMNUC PII KUUH;
   2LEK TOO;2BEYYAL;2PHNAEK MUAN;2KOOMUUT;1vl z RIEL;1f AVAKRAHASANYA;2ATTHACAN;@17E0 1bh bt;2m;2l;2s;2w;2aa;2ag;
   2ao;2ah;2ar;@17F0 1z LEK ATTAK SON;4MUOY;4PII;4BEI;4BUON;4PRAM;4PRAM-MUOY;4PRAM-PII;4PRAM-BEI;4PRAM-BUON;
   @1800 0MONGOLIAN po;1rp;1de;1eb cn;1gm;1w aw;1TODO SOFT oe;1SIBE lb BOUNDARY sa;1MANCHU de;2eb cn;1NIRUGU;
   1FREE wn SELECTOR m;4l;4s;1bf gv;1FREE wn SELECTOR w;1bh bt;2m;2l;2s;2w;2aa;2ag;2ao;2ah;2ar;@1820 1b A;2E;2I;2O;
   2U;2OE;2UE;2EE;2NA;2ANG;2BA;2PA;2QA;2GA;2MA;2LA;2SA;2cl;2TA;2DA;2cs;2JA;2YA;2RA;2WA;2FA;2KA;2cw;2hc;2ZA;2HAA;
   2ZRA;2LHA;2ZHI;2CHI;2TODO bz bf f;3E;3I;3O;3U;3OE;3UE;3ANG;3BA;3PA;3QA;3GA;3MA;3TA;3DA;3cs;3JA;3hc;3YA;3WA;3KA;
   3GAA;3HAA;3JIA;3NIA;3DZA;2SIBE E;3I;3IY;3UE;3U;3ANG;3KA;3GA;3HA;3PA;3cl;3TA;3DA;3JA;3FA;3GAA;3HAA;3hc;3ZA;3RAA;
   3cs;3ZHA;2MANCHU I;3KA;3RA;3FA;3ZHA;2cs a l aw;@1880 2ALI GALI ed m;4fw m;4DAMARU;4UBADAMA;4cv UBADAMA;4BALUDA;
   4s BALUDA;4A;4I;4KA;4ck;4CA;4ee;4fb;4ef;4eq;4TA;4DA;4PA;4dq;4fc;4ZHA;4ZA;4AH;2TODO ALI GALI TA;5ZHA;
   2MANCHU ALI GALI eg;5ck;5CA;5fv;5ee;5ff;5TA;5eh;5fc;5CYA;5ZHA;5ZA;2ALI GALI ap U;5YA;2MANCHU ALI GALI er;
   2ALI GALI DAGALGA;2MANCHU ALI GALI LHA;@18B0 0CANADIAN SYLLABICS OY;2AY;2AAY;2WAY;2POY;2PAY;2PWOY;2TAY;2KAY;
   2KWAY;2MAY;2NOY;2NAY;2LAY;2SOY;2SAY;2SHOY;2SHAY;2SHWOY;2YOY;2YAY;2RAY;2NWI;2OJIBWAY NWI;2NWII;2OJIBWAY NWII;
   2NWO;2OJIBWAY NWO;2NWOO;2OJIBWAY NWOO;2RWEE;2RWI;2RWII;2RWO;2RWOO;2RWA;2OJIBWAY P;3T;3K;3C;3M;3N;3S;3SH;
   2EASTERN W;2WESTERN W;2o c bi;3ia r;2R-CREE RWE;2bu LOO;3LAA;2THWE;2THWA;2TTHWE;2TTHOO;2TTHAA;2TLHWE;2TLHOO;
   2ra SHWE;3SHOO;3HOO;2ow GWU;3DENE GEE;3GAA;3GWA;2ra JUU;2ow JWA;2BEAVER DENE L;4R;2ow DENTAL S;
   @1900 0LIMBU VOWEL-CARRIER b;1b KA;2cw;2GA;2eg;2ck;2CA;2cs;2JA;2fv;2YAN;2TA;2df;2DA;2eh;2NA;2PA;2dq;2BA;2er;2MA;
   2YA;2RA;2LA;2WA;2cl;2fc;2SA;2HA;2GYAN;2TRA;@1920 1bf f A;3I;3U;3EE;3AI;3OO;3AU;3E;3O;1uy b YA;3RA;3WA;
   @1930 1c b KA;3ck;3ed;3TA;3NA;3PA;3MA;3RA;3LA;1f MUKPHRENG;2KEMPHRENG;2SA-I;@1940 2LOO;@1944 1hy q;1hj q;1bh bt;
   2m;2l;2s;2w;2aa;2ag;2ao;2ah;2ar;0TAI LE b KA;3XA;3ck;3hc;3SA;3YA;3TA;3df;3LA;3PA;3dq;3MA;3FA;3VA;3HA;3QA;3cw;
   3mk;3NA;3A;3I;3EE;3EH;3U;3OO;3O;3UE;3E;3AUE;3AI;@1970 3TONE-2;+4;@1980 0NEW TAI LUE b cf QA;4bn QA;4cf KA;5XA;
   5ck;4bn KA;5XA;5ck;4cf hc;5SA;5YA;4bn hc;5SA;5YA;4cf TA;5df;5NA;4bn TA;5df;5NA;4cf PA;5dq;5MA;4bn PA;5dq;5MA;
   4cf FA;5VA;5LA;4bn FA;5VA;5LA;4cf HA;5DA;5BA;4bn HA;5DA;5BA;4cf KVA;5XVA;4bn KVA;5XVA;4cf SUA;4bn SUA;
   @19B0 3bf f bf SHORTENER;5AA;5II;5U;5UU;5E;5AE;5O;5OA;5UE;5AY;5AAY;5UY;5OY;5OAY;5UEY;5IY;3b o V;5NG;5N;5M;5K;5D;
   5B;3cd MARK-1;+1;@19D0 3bh bt;4m;4l;4s;4w;4aa;4ag;4ao;4ah;4ar;3THAM bh m;@19DE 3f LAE;4LAEV;0KHMER z PATHAMASAT;
   2MUOY mb;2PII mb;2BEI mb;2BUON mb;2PRAM mb;2PRAM-MUOY mb;2PRAM-PII mb;2PRAM-BEI mb;2PRAM-BUON mb;2DAP mb;
   2DAP-MUOY mb;2DAP-PII mb;2DAP-BEI mb;2DAP-BUON mb;2DAP-PRAM mb;2TUTEYASAT;2MUOY ROC;2PII ROC;2BEI ROC;2BUON ROC;
   2PRAM ROC;2PRAM-MUOY ROC;2PRAM-PII ROC;2PRAM-BEI ROC;2PRAM-BUON ROC;2DAP ROC;2DAP-MUOY ROC;2DAP-PII ROC;
   2DAP-BEI ROC;2DAP-BUON ROC;2DAP-PRAM ROC;0BUGINESE b KA;2GA;2ck;2NGKA;2PA;2BA;2MA;2MPA;2TA;2DA;2NA;2NRA;2CA;2JA;
   2cu;2NYCA;2YA;2RA;2LA;2VA;2SA;2A;2HA;1bf f I;3U;3E;3O;3AE;@1A1E 1PALLAWA;1fs OF in;0TAI THAM b cf KA;4cw;4KXA;
   3bn KA;4KXA;4cw;3ck;3cf CA;4cs;3bn CA;4SA;4cs;3cu;3RATA;3cf RATHA;3DA;3bn RATHA;3RANA;3cf TA;4df;3bn TA;4df;3NA;
   3BA;3cf PA;4dq;4FA;3bn PA;4FA;4dq;3MA;3bn YA;3cf YA;3RA;3RUE;3LA;3LUE;3WA;3cf cl;4fc;4SA;4HA;3hp;3A;3bn HA;3I;
   3II;3U;3UU;3EE;3OO;3LAE;3GREAT SA;2it f bs RA;5LA;4LA TANG LAI;2f MAI KANG LAI;2it f o ck;4bn PA;
   4cf RATHA OR bn PA;4MA;4BA;4SA;@1A60 2f SAKOT;2bf f A;4MAI SAT;4AA;4TALL AA;4I;4II;4UE;4UUE;4U;4UU;4O;4OA n;4OY;
   4E;4AE;4OO;4AI;4THAM AI;4OA j;2f MAI KANG;3TONE-1;+1;3KHUEN TONE-3;+2;3RA HAAM;3MAI SAM;3KHUEN-LUE KARAN;
   @1A7F 2fj qr r;2HORA bh bt;4m;4l;4s;4w;4aa;4ag;4ao;4ah;4ar;@1A90 2THAM bh bt;4m;4l;4s;4w;4aa;4ag;4ao;4ah;4ar;
   @1AA0 2f WIANG;3WIANGWAAK;3SAWAN;3KEOW;3HOY;3DOKMAI;3ch db RANA;3MAI YAMOK;3KAAN;3KAANKUU;3SATKAAN;3SATKAANKUU;
   3HANG;3CAANG;@1AB0 0fj DOUBLED cb fi;1DIAERESIS-RING;1um;1bj h;1em r;1X-X n;1WIGGLY cj n;1bw q n;1p bw q n;
   1be wu y n;1STRONG wu y n;1PARENTHESES j;1p PARENTHESES j;1PARENTHESES n;2iw;1dz c b W n;4by W n;1k ex j k;
   1i ex j i;1k ex n k;1i ex n i;1au BRACKETS j;1cz f j;1cv p ARCH j;1al f j;1p al f j;4n;1em bo fi;1dz c b ki G;
   5R;5T;@1B00 0BALINESE f ULU RICEM;3lv;2CECEK;2SURANG;2BISAH;1b AKARA;3os;2IKARA;3os;2UKARA;3os;2RA REPA;4os;
   2LA LENGA;4os;2EKARA;2AIKARA;2OKARA;3os;2KA;3rz;2GA;3GORA;2ck;2CA;3LACA;2JA;3JERA;2cu;2TA LATIK;3pe rz;
   2DA pe ALPAPRANA;4rz;2NA RAMBAT;2TA;3TAWA;2DA;3MADU;2NA;2PA;3KAPAL;2BA;3KEMBANG;2MA;2YA;2RA;2LA;2WA;2SA SAGA;
   3SAPA;3;2HA;1f REREKAN;1bf f os;3ULU;4SARI;3SUKU;4ILUT;3RA REPA;5os;3LA LENGA;5os;3TALING;4REPA;4os;4REPA os;
   3PEPET;4os;1ADEG ADEG;1b gy SASAK;2KHOT SASAK;2TZIR SASAK;2EF SASAK;2VE SASAK;2ZAL SASAK;2ASYURA SASAK;2jq JNYA;
   @1B50 1bh bt;2m;2l;2s;2w;2aa;2ag;2ao;2ah;2ar;1PANTI;1PAMADA;1WINDU;1CARIK PAMUNGKAH;2SIKI;2PAREREN;1PAMENENG;
   1nm z DONG;3DENG;3DUNG;3DANG;4SURANG;3DING;3DAENG;3DEUNG;3DAING;3DANG GEDE;3fj TEGEH;4ENDEP;4KEMPUL;4KEMPLI;
   4JEGOGAN;4KEMPUL a JEGOGAN;4KEMPLI a JEGOGAN;4BENDE;4GONG;3RIGHT-HAND bw DUG;5DAG;4fx TUK;5TAK;
   3LEFT-HAND bw PANG;5PUNG;4fx PLAK;5PLUK;4bw PING;1PANTI LANTANG;1PAMADA LANTANG;@1B80 0SUNDANESE f PANYECEK;
   2PANGLAYAR;2PANGWISAD;1b A;2I;2U;2AE;2O;2E;2EU;2KA;2QA;2GA;2ck;2CA;2JA;2ZA;2cu;2TA;2DA;2NA;2PA;2FA;2VA;2BA;2MA;
   2YA;2RA;2LA;2WA;2SA;2XA;2HA;1it f PAMINGKAL;3PANYAKRA;3PANYIKU;1bf f PANGHULU;3PANYUKU;3PANAELAENG;3PANOLONG;
   3PAMEPET;3PANEULEUNG;1f PAMAAEH;2fe;1it f PASANGAN MA;4WA;1b cw;2SYA;1bh bt;2m;2l;2s;2w;2aa;2ag;2ao;2ah;2ar;1lf;
   1b REU;2LEU;2er;2o K;3M;0BATAK b A;2ph A;2HA;2ph HA;2MANDAILING HA;2BA;2KARO BA;2PA;2ph PA;2NA;2MANDAILING NA;
   2WA;2ph WA;2PAKPAK WA;2GA;2ph GA;2JA;2DA;2RA;2ph RA;2MA;2ph MA;2SOUTHERN TA;2NORTHERN TA;2SA;2ph SA;
   2MANDAILING SA;2YA;2ph YA;2ck;2LA;2ph LA;2cu;2CA;2NDA;2MBA;2I;2U;1f TOMPI;1bf f E;3PAKPAK E;3EE;3I;3KARO I;3O;
   3KARO O;3U;4fk ph SA;1it f NG;3H;1PANGOLAT;1PANONGONAN;@1BFC 1z BINDU NA METEK;3PINARBORAS;3JUDUL;3PANGOLAT;
   0LEPCHA b KA;2KLA;2cw;2GA;2GLA;2ck;2CA;2cs;2JA;2cu;2TA;2df;2DA;2NA;2PA;2PLA;2dq;2FA;2FLA;2BA;2BLA;2MA;2MLA;2hc;
   2mk;2DZA;2YA;2RA;2LA;2HA;2HLA;2VA;2SA;2cl;2WA;2A;1uy b YA;3RA;1bf f AA;3I;3O;3OO;3U;3UU;3E;1it f K;3M;3L;3N;3P;
   3R;3T;3NYIN-DO;3KANG;1f RAN;2ig;@1C3B 1eu TA-ROL;2NYET THYOOM TA-ROL;2CER-WA;2TSHOOK CER-WA;3;1bh bt;2m;2l;2s;
   2w;2aa;2ag;2ao;2ah;2ar;@1C4D 1b ee;2fb;2ef;0OL CHIKI bh bt;3m;3l;3s;3w;3aa;3ag;3ao;3ah;3ar;2b LA;3AT;3AG;3ANG;
   3AL;3LAA;3AAK;3AAJ;3AAM;3AAW;3LI;3IS;3IH;3INY;3IR;3LU;3UC;3UD;3UNN;3UY;3LE;3EP;3EDD;3EN;3ERR;3LO;3OTT;3OB;3OV;
   3OH;2MU TTUDDAG;2GAAHLAA TTUDDAAG;2MU-GAAHLAA TTUDDAAG;2RELAA;2PHAARKAA;2AHAD;2eu MUCAAD;3p MUCAAD;
   0mq c b qd VE;3LONG-LEGGED DE;3NARROW O;3WIDE ES;3TALL TE;3THREE-LEGGED TE;3TALL HARD f;4YAT;3UNBLENDED UK;
   @1C90 0vp MTAVRULI e b AN;4BAN;4GAN;4DON;4EN;4VIN;4ZEN;4TAN;4IN;4KAN;4LAS;4MAN;4NAR;4ON;4PAR;4ZHAR;4RAE;4SAN;
   4TAR;4UN;4PHAR;4KHAR;4GHAN;4QAR;4hb;4CHIN;4CAN;4JIL;4CIL;4CHAR;4XAN;4JHAN;4HAE;4HE;4HIE;4WE;4HAR;4HOE;4FI;4YN;
   4ELIFI;4by GAN;4gf;@1CBD 4AEN;4HARD f;4LABIAL f;0SUNDANESE eu BINDU SURYA;3PANGLONG;3PURNAMA;3CAKRA;
   3LEU SATANGA;3KA SATANGA;3DA SATANGA;3BA SATANGA;@1CD0 0VEDIC cd KARSHANA;2SHARA;2PRENKHA;1f NIHSHVASA;
   2YAJURVEDIC MIDLINE qh;1cd YAJURVEDIC AGGRAVATED ru qh;3ru qh;3KATHAKA ru qh;2lv n;
   2YAJURVEDIC KATHAKA ru qh SCHROEDER;2p qh;2em qh;2KATHAKA ve;2r n;2l aw n;2s aw n;2RIGVEDIC KASHMIRI ru qh;
   2ATHARVAVEDIC ru qh;1f fw qh;3UDATTA;2ch fw UDATTA;2fw ve;2ch fw ve;2fw UDATTA a dr;3ve a dr;2ed ANTARGOMUKHA;
   3BAHIRGOMUKHA;3VAMAGOMUKHA;4a dr;2TIRYAK;2HEXIFORM bz ed;2bz ed;2RTHANG bz ed;2ed UBHAYATO MUKHA;2ARDHAVISARGA;
   2db ARDHAVISARGA;1cd lv j;1f uq;2vb;2ATIKRAMA;1cd bi j;2p bi j;1f p ed ANTARGOMUKHA;@1D00 0dz b c e A;4AE;
   1c b by AE;1b c e pm B;4C;4D;4ETH;4E;1c b by bw E;4I;1b c e J;4K;4L a y;4M;4ch N;4O;4bw O;1c b rb O;4bw O;
   4O a y;3by OE;1b c e OU;1c b fa ap O;3gk ap O;1b c e P;4ch R;4by R;4T;4U;1c b rb U;4DIAERESIZED U;4by M;
   1b c e V;4W;4Z;4EZH;2qj LARYNGEAL SPIRANT;2gf;0if b c e iz;4mw;4PI;4RHO;4PSI;0mq b c e EL;0gz b e A;3AE;3B;
   3pm B;3D;3E;3ch E;3G;3H;3I;3J;3K;3L;3M;3N;3ch N;3O;3OU;3P;3R;3T;3U;3W;2c A;3by A;3gg;3by AE;3B;3D;3E;3qe;3bw E;
   3by bw E;3G;3by I;3K;3M;3ENG;3O;3bw O;3fa ap O;3gk ap O;3P;3T;3U;3rb U;3by M;3V;3gf;3js;3if iz;3jm;3if PHI;3CHI;
   0dz tr c b I;4R;4U;4V;0if tr c b js;4iz;4RHO;4PHI;4CHI;0dz c b UE;3B a ae bg;3D a ae bg;3F a ae bg;3M a ae bg;
   3N a ae bg;3P a ae bg;3R a ae bg;5tf g ae bg;3S a ae bg;3T a ae bg;3Z a ae bg;3by G;0gz b mq EN;0dz c b ki G;
   3TH a STRIKETHROUGH;2e b I a y;2b gt a y;3P a y;2e b U a y;2b hr a y;3B a hi x;3D a hi x;3F a hi x;3G a hi x;
   3K a hi x;3L a hi x;3M a hi x;3N a hi x;3P a hi x;3R a hi x;3S a hi x;3ESH a hi x;3V a hi x;3X a hi x;3Z a hi x;
   3A a ey x;3gg a ey x;3D a x g dr;3E a ey x;3bw E a ey x;3ch bw E a ey x;3qe a ey x;3I a ey x;3bw O a ey x;
   3ESH a ey x;3U a ey x;3EZH a ey x;0gz b c by gg;3C;4a iy;3ETH;3ch bw E;3F;3mt J a y;3im G;3by H;3I a y;3gt;3e I;
   5a y;3J a qq;3L a ey x;5hi x;3e L;3M a x;3by M a bz LEG;3N a k x;5ey x;3e N;3pm O;3PHI;3S a x;3ESH;3T a hi x;
   3U ak;3hr;3e U;3V a x;3by V;3Z;4a ey x;5iy;3EZH;3ih;0fj fm cr fi;2bo fi;1SNAKE n;1SUSPENSION q;1MACRON-ACUTE;
   1GRAVE-MACRON;1MACRON-GRAVE;1ACUTE-MACRON;1GRAVE-ACUTE-GRAVE;1ACUTE-GRAVE-ACUTE;1dz c b R n;1BREVE-MACRON;
   1MACRON-BREVE;1p cb j;1mf j;1sy n;1IS n;1UR j;1US j;1dz c b xc bw A j;4AE;4AO;4AV;4C he;4ki D;4ETH;4G;2b c e G;
   2c b K;4L;2b c e L;5M;2c b N;2b c e N;5R;2c b R ROTUNDA;4S;4bz S;4Z;4gg;4B;4js;4qe;4F;4L a p ae bg;4O a be wu y;
   4P;4ESH;4U a be wu y;4W;4A a ci;4O a ci;4U a ci;1UP ge j;1KAVYKA j i;3k;1r j k;1WIDE cv BRIDGE n;1r n k;
   1DELETION q;1p cv dn n;1ld bc TO n;1k cp j;1i cp g an cp n;0dz e b A a bi n;1c b A a bi n;1e b B a r j;
   1c b B a r j;1e b B a r n;1c b B a r n;1e b B a cj n;1c b B a cj n;1e b C a he g bo;1c b C a he g bo;
   1e b D a r j;1c b D a r j;1e b D a r n;1c b D a r n;1e b D a cj n;1c b D a cj n;1e b D a he;1c b D a he;
   1e b D a cb n;1c b D a cb n;1e b E a cx g cr;1c b E a cx g cr;1e b E a cx g bo;1c b E a cx g bo;1e b E a cb n;
   1c b E a cb n;1e b E a bg n;1c b E a bg n;1e b E a he g dn;1c b E a he g dn;1e b F a r j;1c b F a r j;
   1e b G a cx;1c b G a cx;1e b H a r j;1c b H a r j;1e b H a r n;1c b H a r n;1e b H a ci;1c b H a ci;1e b H a he;
   1c b H a he;1e b H a dn n;1c b H a dn n;1e b I a bg n;1c b I a bg n;1e b I a ci g bo;1c b I a ci g bo;
   1e b K a bo;1c b K a bo;1e b K a r n;1c b K a r n;1e b K a cj n;1c b K a cj n;1e b L a r n;1c b L a r n;
   1e b L a r n g cx;1c b L a r n g cx;1e b L a cj n;1c b L a cj n;1e b L a cb n;1c b L a cb n;1e b M a bo;
   1c b M a bo;1e b M a r j;1c b M a r j;1e b M a r n;1c b M a r n;1e b N a r j;1c b N a r j;1e b N a r n;
   1c b N a r n;1e b N a cj n;1c b N a cj n;1e b N a cb n;1c b N a cb n;1e b O a bg g bo;1c b O a bg g bo;
   1e b O a bg g ci;1c b O a bg g ci;1e b O a cx g cr;1c b O a cx g cr;1e b O a cx g bo;1c b O a cx g bo;
   1e b P a bo;1c b P a bo;1e b P a r j;1c b P a r j;1e b R a r j;1c b R a r j;1e b R a r n;1c b R a r n;
   1e b R a r n g cx;1c b R a r n g cx;1e b R a cj n;1c b R a cj n;1e b S a r j;1c b S a r j;1e b S a r n;
   1c b S a r n;1e b S a bo g r j;1c b S a bo g r j;1e b S a eo g r j;1c b S a eo g r j;1e b S a r n g r j;
   1c b S a r n g r j;1e b T a r j;1c b T a r j;1e b T a r n;1c b T a r n;1e b T a cj n;1c b T a cj n;
   1e b T a cb n;1c b T a cb n;1e b U a ci n;1c b U a ci n;1e b U a bg n;1c b U a bg n;1e b U a cb n;1c b U a cb n;
   1e b U a bg g bo;1c b U a bg g bo;1e b U a cx g ci;1c b U a cx g ci;1e b V a bg;1c b V a bg;1e b V a r n;
   1c b V a r n;1e b W a cr;1c b W a cr;1e b W a bo;1c b W a bo;1e b W a ci;1c b W a ci;1e b W a r j;1c b W a r j;
   1e b W a r n;1c b W a r n;1e b X a r j;1c b X a r j;1e b X a ci;1c b X a ci;1e b Y a r j;1c b Y a r j;
   1e b Z a cb;1c b Z a cb;1e b Z a r n;1c b Z a r n;1e b Z a cj n;1c b Z a cj n;3H a cj n;3T a ci;3W a bi j;
   3Y a bi j;3A a i ap bi;3bz S a r j;6ep y;6cf y;1e b SHARP S;1c b jm;1e b A a r n;1c b A a r n;1e b A a x j;
   1c b A a x j;1e b A a cb g bo;1c b A a cb g bo;1e b A a cb g cr;1c b A a cb g cr;1e b A a cb g x j;
   1c b A a cb g x j;1e b A a cb g bg;1c b A a cb g bg;1e b A a cb g r n;1c b A a cb g r n;1e b A a dn g bo;
   1c b A a dn g bo;1e b A a dn g cr;1c b A a dn g cr;1e b A a dn g x j;1c b A a dn g x j;1e b A a dn g bg;
   1c b A a dn g bg;1e b A a dn g r n;1c b A a dn g r n;1e b E a r n;1c b E a r n;1e b E a x j;1c b E a x j;
   1e b E a bg;1c b E a bg;1e b E a cb g bo;1c b E a cb g bo;1e b E a cb g cr;1c b E a cb g cr;1e b E a cb g x j;
   1c b E a cb g x j;1e b E a cb g bg;1c b E a cb g bg;1e b E a cb g r n;1c b E a cb g r n;1e b I a x j;
   1c b I a x j;1e b I a r n;1c b I a r n;1e b O a r n;1c b O a r n;1e b O a x j;1c b O a x j;1e b O a cb g bo;
   1c b O a cb g bo;1e b O a cb g cr;1c b O a cb g cr;1e b O a cb g x j;1c b O a cb g x j;1e b O a cb g bg;
   1c b O a cb g bg;1e b O a cb g r n;1c b O a cb g r n;1e b O a gb g bo;1c b O a gb g bo;1e b O a gb g cr;
   1c b O a gb g cr;1e b O a gb g x j;1c b O a gb g x j;1e b O a gb g bg;1c b O a gb g bg;1e b O a gb g r n;
   1c b O a gb g r n;1e b U a r n;1c b U a r n;1e b U a x j;1c b U a x j;1e b U a gb g bo;1c b U a gb g bo;
   1e b U a gb g cr;1c b U a gb g cr;1e b U a gb g x j;1c b U a gb g x j;1e b U a gb g bg;1c b U a gb g bg;
   1e b U a gb g r n;1c b U a gb g r n;1e b Y a cr;1c b Y a cr;1e b Y a r n;1c b Y a r n;1e b Y a x j;1c b Y a x j;
   1e b Y a bg;1c b Y a bg;1e b xo LL;1c b xo LL;1e b xo V;1c b xo V;1e b Y a kl;1c b Y a kl;0if c b gg a cg;5ce;
   5cg g dd;5ce g dd;5cg g dc;5ce g dc;5cg g et;5ce g et;1e b gg a cg;5ce;5cg g dd;5ce g dd;5cg g dc;5ce g dc;
   5cg g et;5ce g et;1c b hx a cg;5ce;5cg g dd;5ce g dd;5cg g dc;5ce g dc;@1F18 1e b hx a cg;5ce;5cg g dd;5ce g dd;
   5cg g dc;5ce g dc;@1F20 1c b ETA a cg;5ce;5cg g dd;5ce g dd;5cg g dc;5ce g dc;5cg g et;5ce g et;1e b ETA a cg;
   5ce;5cg g dd;5ce g dd;5cg g dc;5ce g dc;5cg g et;5ce g et;1c b gt a cg;5ce;5cg g dd;5ce g dd;5cg g dc;5ce g dc;
   5cg g et;5ce g et;1e b gt a cg;5ce;5cg g dd;5ce g dd;5cg g dc;5ce g dc;5cg g et;5ce g et;1c b kn a cg;5ce;
   5cg g dd;5ce g dd;5cg g dc;5ce g dc;@1F48 1e b kn a cg;5ce;5cg g dd;5ce g dd;5cg g dc;5ce g dc;
   @1F50 1c b hr a cg;5ce;5cg g dd;5ce g dd;5cg g dc;5ce g dc;5cg g et;5ce g et;@1F59 1e b hr a ce;@1F5B 6g dd;
   @1F5D 7dc;@1F5F 7et;1c b fo a cg;5ce;5cg g dd;5ce g dd;5cg g dc;5ce g dc;5cg g et;5ce g et;1e b fo a cg;5ce;
   5cg g dd;5ce g dd;5cg g dc;5ce g dc;5cg g et;5ce g et;1c b gg a dd;5dc;3hx a dd;5dc;3ETA a dd;5dc;3gt a dd;5dc;
   3kn a dd;5dc;3hr a dd;5dc;3fo a dd;5dc;@1F80 3gg a cg g fr;5ce g fr;5cg g dd g fr;5ce g dd g fr;5cg g dc g fr;
   5ce g dc g fr;5cg g et g fr;5ce g et g fr;1e b gg a cg g hq;5ce g hq;5cg g dd g hq;5ce g dd g hq;5cg g dc g hq;
   5ce g dc g hq;5cg g et g hq;5ce g et g hq;1c b ETA a cg g fr;5ce g fr;5cg g dd g fr;5ce g dd g fr;5cg g dc g fr;
   5ce g dc g fr;5cg g et g fr;5ce g et g fr;1e b ETA a cg g hq;5ce g hq;5cg g dd g hq;5ce g dd g hq;5cg g dc g hq;
   5ce g dc g hq;5cg g et g hq;5ce g et g hq;1c b fo a cg g fr;5ce g fr;5cg g dd g fr;5ce g dd g fr;5cg g dc g fr;
   5ce g dc g fr;5cg g et g fr;5ce g et g fr;1e b fo a cg g hq;5ce g hq;5cg g dd g hq;5ce g dd g hq;5cg g dc g hq;
   5ce g dc g hq;5cg g et g hq;5ce g et g hq;1c b gg a VRACHY;5cx;5dd g fr;5fr;5dc g fr;@1FB6 5et;6g fr;
   1e b gg a VRACHY;5cx;5dd;5dc;5hq;1KORONIS;1hq;1cg;1et;1mr g et;1c b ETA a dd g fr;5fr;5dc g fr;@1FC6 5et;6g fr;
   1e b hx a dd;5dc;3ETA a dd;5dc;5hq;1cg g dd;3dc;3et;1c b gt a VRACHY;5cx;5mr g dd;7dc;@1FD6 5et;5mr g et;
   1e b gt a VRACHY;5cx;5dd;5dc;@1FDD 1ce g dd;3dc;3et;1c b hr a VRACHY;5cx;5mr g dd;7dc;3RHO a cg;5ce;3hr a et;
   5mr g et;1e b hr a VRACHY;5cx;5dd;5dc;3RHO a ce;1mr g dd;3dc;1dd;@1FF2 1c b fo a dd g fr;5fr;5dc g fr;@1FF6 5et;
   6g fr;1e b kn a dd;5dc;3fo a dd;5dc;5hq;1dc;1ce"

end CommonExpr.Text.Name
