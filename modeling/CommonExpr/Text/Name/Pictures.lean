/-! Names of the signs of musical and mathematical notations, of games, and of pictures. -/

namespace CommonExpr.Text.Name

/-- The names from 1D000 on, in the notation of the tables of names. -/
def pictures : String :=
  "@1D000 0BYZANTINE nm z cg;3DASEIA;3et;3OXEIA wy;4DIPLI;3VAREIA wy;4DIPLI;3KATHISTI;3SYRMATIKI;3PARAKLITIKI;
   3YPOKRISIS;4DIPLI;3KREMASTI;3APESO wy;3EXO wy;3TELEIA;3vw;3APOSTROFOS;4DIPLI;3SYNEVMA;3THITA;3OLIGON jr;
   3GORGON jr;3PSILON;3CHAMILON;3VATHY;3ISON jr;3KENTIMA jr;3vw jr;3SAXIMATA;3PARICHON;3STAVROS APODEXIA;
   3OXEIAI jr;3VAREIAI jr;3APODERMA jr;3APOTHEMA;3KLASMA;3REVMA;3PIASMA jr;3TINAGMA;3ANATRICHISMA;3SEISMA;
   3SYNAGMA jr;4META STAVROU;3OYRANISMA jr;3THEMA;3LEMOI;3DYO;3TRIA;3TESSERA;3KRATIMATA;3APESO EXO NEO;3FTHORA jr;
   3IMIFTHORA;3TROMIKON jr;3KATAVA TROMIKON;3PELASTON;3PSIFISTON;3KONTEVMA;3CHOREVMA jr;3RAPISMA;3PARAKALESMA jr;
   3PARAKLITIKI jr;3ICHADIN;3NANA;3PETASMA;3KONTEVMA ALLO;3TROMIKON ALLO;3STRAGGISMATA;3GRONTHISMATA;3ISON NEO;
   3OLIGON NEO;3OXEIA NEO;3PETASTI;3KOUFISMA;3PETASTOKOUFISMA;3KRATIMOKOUFISMA;3PELASTON NEO;3vw NEO ANO;
   3KENTIMA NEO ANO;3YPSILI;3APOSTROFOS NEO;3APOSTROFOI SYNDESMOS NEO;3YPORROI;3KRATIMOYPORROON;3ELAFRON;3CHAMILI;
   3MIKRON ISON;3VAREIA NEO;3PIASMA NEO;3PSIFISTON NEO;3OMALON;3ANTIKENOMA;3LYGISMA;3PARAKLITIKI NEO;
   3PARAKALESMA NEO;3ETERON PARAKALESMA;3KYLISMA;3ANTIKENOKYLISMA;3TROMIKON NEO;3EKSTREPTON;3SYNAGMA NEO;3SYRMA;
   3CHOREVMA NEO;3EPEGERMA;3SEISMA NEO;3XIRON KLASMA;3TROMIKOPSIFISTON;3PSIFISTOLYGISMA;3TROMIKOLYGISMA;
   3TROMIKOPARAKALESMA;3PSIFISTOPARAKALESMA;3TROMIKOSYNAGMA;3PSIFISTOSYNAGMA;3GORGOSYNTHETON;3ARGOSYNTHETON;
   3ETERON ARGOSYNTHETON;3OYRANISMA NEO;3THEMATISMOS ESO;4EXO;3THEMA APLOUN;3THES KAI APOTHES;3KATAVASMA;
   3ENDOFONON;3YFEN KATO;4ANO;3STAVROS;3KLASMA ANO;3DIPLI jr;3KRATIMA jr;4ALLO;4NEO;3APODERMA NEO;3APLI;3DIPLI;
   3TRIPLI;3TETRAPLI;3KORONIS;3LEIMMA ENOS CHRONOU;4DYO CHRONON;4TRION CHRONON;4TESSARON CHRONON;4IMISEOS CHRONOU;
   3GORGON NEO ANO;4PARESTIGMENON ARISTERA;5DEXIA;3DIGORGON;4PARESTIGMENON ARISTERA KATO;6ANO;5DEXIA;3TRIGORGON;
   3ARGON;3IMIDIARGON;3DIARGON;3AGOGI POLI ARGI;4ARGOTERI;4ARGI;4METRIA;4MESI;4GORGI;4GORGOTERI;4POLI GORGI;
   3MARTYRIA PROTOS nh;4ALLI PROTOS nh;4DEYTEROS nh;4ALLI DEYTEROS nh;4TRITOS nh;4TRIFONIAS;4TETARTOS nh;
   5LEGETOS nh;4LEGETOS nh;4PLAGIOS nh;3ISAKIA TELOUS ICHIMATOS;3APOSTROFOI TELOUS ICHIMATOS;
   3FANEROSIS TETRAFONIAS;4MONOFONIAS;4DIFONIAS;3MARTYRIA VARYS nh;4PROTOVARYS nh;4PLAGIOS TETARTOS nh;
   3GORTHMIKON N APLOUN;5DIPLOUN;3ENARXIS KAI FTHORA VOU;3IMIFONON;3IMIFTHORON;3FTHORA jr DEYTEROU ICHOU;
   4DIATONIKI PA;5NANA;4NAOS nh;4DIATONIKI DI;4SKLIRON DIATONON DI;4DIATONIKI KE;5ZO;5NI KATO;6ANO;
   4MALAKON CHROMA DIFONIAS;6MONOFONIAS;3FHTORA SKLIRON CHROMA VASIS;3FTHORA SKLIRON CHROMA SYNAFI;4NENANO;
   3CHROA ZYGOS;4KLITON;4SPATHI;3FTHORA I YFESIS TETARTIMORION;4ENARMONIOS ANTIFONIA;3YFESIS TRITIMORION;
   3DIESIS TRITIMORION;4TETARTIMORION;4APLI DYO rn;4MONOGRAMMOS TESSERA rn;4DIGRAMMOS EX rn;4TRIGRAMMOS OKTO rn;
   3YFESIS APLI DYO rn;4MONOGRAMMOS TESSERA rn;4DIGRAMMOS EX rn;4TRIGRAMMOS OKTO rn;3GENIKI DIESIS;4YFESIS;
   3DIASTOLI APLI MIKRI;5MEGALI;4DIPLI;4THESEOS;3SIMANSIS THESEOS;5DISIMOU;5TRISIMOU;5TETRASIMOU;4ARSEOS;5DISIMOU;
   5TRISIMOU;5TETRASIMOU;3DIGRAMMA GG;3DIFTOGGOS OU;3STIGMA;3ARKTIKO PA;4VOU;4GA;4DI;4KE;4ZO;4NI;3vw NEO MESO;
   3KENTIMA NEO MESO;3vw NEO KATO;3KENTIMA NEO KATO;3KLASMA KATO;3GORGON NEO KATO;@1D100 0nm z cm ty;2p ty;2o ty;
   2jc o ty;2ng ty;2ec ty;2k REPEAT f;2i REPEAT f;2REPEAT aw;2DAL SEGNO;2DA CAPO;2SEGNO;2CODA;2REPEATED FIGURE-1;
   +2;2FERMATA;3n;2BREATH q;2CAESURA;2BRACE;2as;2ONE-LINE STAFF;2TWO-LINE STAFF;2THREE-LINE STAFF;2FOUR-LINE STAFF;
   2FIVE-LINE STAFF;2SIX-LINE STAFF;2SIX-STRING FRETBOARD;2FOUR-STRING FRETBOARD;2G CLEF;4OTTAVA ALTA;5BASSA;
   2C CLEF;2F CLEF;4OTTAVA ALTA;5BASSA;2DRUM CLEF-1;+1;@1D129 2nl ut ko;2p SHARP;3FLAT;2FLAT UP;3an;2NATURAL UP;
   3an;2SHARP UP;3an;2gj cd SHARP;4FLAT;2COMMON TIME;2CUT TIME;2OTTAVA ALTA;3BASSA;2QUINDICESIMA ALTA;3BASSA;
   2MULTI ko;2WHOLE ko;2ap ko;2gj ko;2hu ko;2ux ko;2zm ko;2zl ko;2m aq TWENTY-EIGHTH ko;2X ok;2al ok;2av X ok;
   2au ok v;4t;2bl ok UP v;5t;4k v;5t;4i v;5t;4an v;5t;4UP i v;6t;2hz ok v;4t;2TRIANGLE-ROUND ok an v;5t;2ex ok;
   2VOID ok;2ok t;2NULL ok;2CLUSTER ok v;4t;2dn;2WHOLE jo;2ap jo;2gj jo;2hu jo;2ux jo;2zm jo;2zl jo;
   2m aq TWENTY-EIGHTH jo;2fj STEM;3SPRECHGESANG STEM;3TREMOLO-1;+2;2FINGERED TREMOLO-1;+2;2fj AUGMENTATION r;
   3FLAG-1;+4;2BEGIN BEAM;2fs BEAM;2BEGIN TIE;2fs TIE;2BEGIN SLUR;2fs SLUR;2BEGIN PHRASE;2fs PHRASE;2fj fi;
   3STACCATO;3TENUTO;3STACCATISSIMO;3MARCATO;3MARCATO-STACCATO;3ACCENT-STACCATO;3LOURE;2ARPEGGIATO UP;3an;2fj DOIT;
   3RIP;3FLIP;3SMEAR;3BEND;3p TONGUE;3em TONGUE;2RINFORZANDO;2SUBITO;2Z;2PIANO;2MEZZO;2FORTE;2CRESCENDO;
   2DECRESCENDO;2GRACE jo ls;4NO ls;2TR;2TURN;2cv TURN;2TURN ls;3UP;2ea STROKE-1;+10;2HAUPTSTIMME;2NEBENSTIMME;
   2fs OF STIMME;2DEGREE ls;2fj an BOW;3UP BOW;3HARMONIC;3SNAP PIZZICATO;2PEDAL q;3UP q;2ap PEDAL q;2GLISSANDO UP;
   3an;2a FINGERNAILS;2DAMP;3ALL;2MAXIMA;2LONGA;2BREVIS;2SEMIBREVIS v;3t;2MINIMA;3t;2SEMIMINIMA v;3t;2FUSA v;3t;
   2LONGA PERFECTA ko;3IMPERFECTA ko;2BREVIS ko;2SEMIBREVIS ko;2MINIMA ko;2SEMIMINIMA ko;
   2TEMPUS PERFECTUM CUM PROLATIONE PERFECTA;6IMPERFECTA;6PERFECTA DIMINUTION-1;
   3IMPERFECTUM CUM PROLATIONE PERFECTA;6IMPERFECTA;7DIMINUTION-1;+2;2CROIX;2GREGORIAN C CLEF;3F CLEF;2au B;2VIRGA;
   2PODATUS;2CLIVIS;2SCANDICUS;2CLIMACUS;2TORCULUS;2PORRECTUS;3FLEXUS;2SCANDICUS FLEXUS;2TORCULUS RESUPINUS;
   2PES SUBPUNCTIS;2KIEVAN C CLEF;3fs OF PIECE;3o jo;3RECITATIVE q;3WHOLE jo;3ap jo;3gj jo STEM an;6UP;
   3hu jo STEM an;6UP;3FLAT f;2SORI;2KORON;@1D200 0if VOCAL se SYMBOL-1;+23;3SYMBOL-50;+4;
   1INSTRUMENTAL se SYMBOL-1;+1;3SYMBOL-4;+1;3SYMBOL-7;+1;3SYMBOL-11;+3;3SYMBOL-17;+2;3SYMBOL-23;+4;3SYMBOL-29;+1;
   3SYMBOL-32;3SYMBOL-36;+4;3SYMBOL-42;+1;3SYMBOL-45;3SYMBOL-47;+7;0fj if nm TRISEME;3TETRASEME;3PENTASEME;
   0if nm LEIMMA;@1D2E0 0MAYAN qc bt;2m;2l;2s;2w;2aa;2ag;2ao;2ah;2ar;2ca;2ob;2na;2st;2rt;2pa;2qg;2sm;2qs;2sd;
   @1D300 0uu fk mu;0DIGRAM fk HEAVENLY mu;2HUMAN mu;2EARTHLY HEAVEN;3HUMAN;2mu;0TETRAGRAM fk dm;2eb av;2MIRED;
   2BARRIER;2KEEPING c;2CONTRARIETY;2ASCENT;2OPPOSITION;2BRANCHING OUT;2DEFECTIVENESS OR DISTORTION;2DIVERGENCE;
   2YOUTHFULNESS;2INCREASE;2PENETRATION;2REACH;2tz;2ul BACK;2WAITING;2FOLLOWING;2ADVANCE;2RELEASE;2RESISTANCE;
   2EASE;2JOY;2CONTENTION;2ENDEAVOUR;2DUTIES;2CHANGE;2DECISIVENESS;2hd RESOLUTION;2PACKING;2LEGION;2CLOSENESS;
   2KINSHIP;2GATHERING;2STRENGTH;2PURITY;2FULLNESS;2RESIDENCE;2LAW OR MODEL;2RESPONSE;2GOING TO MEET;2ENCOUNTERS;
   2STOVE;2GREATNESS;2ENLARGEMENT;2PATTERN;2RITUAL;2FLIGHT;2VASTNESS OR WASTING;2CONSTANCY;2ut;2ETERNITY;2UNITY;
   2DIMINISHMENT;2fx jl;2GUARDEDNESS;2GATHERING IN;2MASSING;2ACCUMULATION;2EMBELLISHMENT;2DOUBT;2WATCH;2SINKING;
   2INNER;2DEPARTURE;2DARKENING;2DIMMING;2EXHAUSTION;2SEVERANCE;2STOPPAGE;2HARDNESS;2COMPLETION;2CLOSURE;2FAILURE;
   2AGGRAVATION;2COMPLIANCE;2ON fp VERGE;2DIFFICULTIES;2LABOURING;2FOSTERING;@1D360 0COUNTING ROD UNIT bh m;4l;4s;
   4w;4aa;4ag;4ao;4ah;4ar;2TENS bh m;4l;4s;4w;4aa;4ag;4ao;4ah;4ar;0ma TALLY q m;3l;3s;3w;3aa;0TALLY q m;2aa;
   @1D400 0us hd e A;3B;3C;3D;3E;3F;3G;3H;3I;3J;3K;3L;3M;3N;3O;3P;3Q;3R;3S;3T;3U;3V;3W;3X;3Y;3Z;2c A;3B;3C;3D;3E;
   3F;3G;3H;3I;3J;3K;3L;3M;3N;3O;3P;3Q;3R;3S;3T;3U;3V;3W;3X;3Y;3Z;1pb e A;3B;3C;3D;3E;3F;3G;3H;3I;3J;3K;3L;3M;3N;
   3O;3P;3Q;3R;3S;3T;3U;3V;3W;3X;3Y;3Z;2c A;3B;3C;3D;3E;3F;3G;@1D456 3I;3J;3K;3L;3M;3N;3O;3P;3Q;3R;3S;3T;3U;3V;3W;
   3X;3Y;3Z;1hd pb e A;4B;4C;4D;4E;4F;4G;4H;4I;4J;4K;4L;4M;4N;4O;4P;4Q;4R;4S;4T;4U;4V;4W;4X;4Y;4Z;3c A;4B;4C;4D;4E;
   4F;4G;4H;4I;4J;4K;4L;4M;4N;4O;4P;4Q;4R;4S;4T;4U;4V;4W;4X;4Y;4Z;1im e A;@1D49E 3C;3D;@1D4A2 3G;@1D4A5 3J;3K;
   @1D4A9 3N;3O;3P;3Q;@1D4AE 3S;3T;3U;3V;3W;3X;3Y;3Z;2c A;3B;3C;3D;@1D4BB 3F;@1D4BD 3H;3I;3J;3K;3L;3M;3N;@1D4C5 3P;
   3Q;3R;3S;3T;3U;3V;3W;3X;3Y;3Z;1hd im e A;4B;4C;4D;4E;4F;4G;4H;4I;4J;4K;4L;4M;4N;4O;4P;4Q;4R;4S;4T;4U;4V;4W;4X;
   4Y;4Z;3c A;4B;4C;4D;4E;4F;4G;4H;4I;4J;4K;4L;4M;4N;4O;4P;4Q;4R;4S;4T;4U;4V;4W;4X;4Y;4Z;1FRAKTUR e A;3B;@1D507 3D;
   3E;3F;3G;@1D50D 3J;3K;3L;3M;3N;3O;3P;3Q;@1D516 3S;3T;3U;3V;3W;3X;3Y;@1D51E 2c A;3B;3C;3D;3E;3F;3G;3H;3I;3J;3K;
   3L;3M;3N;3O;3P;3Q;3R;3S;3T;3U;3V;3W;3X;3Y;3Z;1oz e A;3B;@1D53B 3D;3E;3F;3G;@1D540 3I;3J;3K;3L;3M;@1D546 3O;
   @1D54A 3S;3T;3U;3V;3W;3X;3Y;@1D552 2c A;3B;3C;3D;3E;3F;3G;3H;3I;3J;3K;3L;3M;3N;3O;3P;3Q;3R;3S;3T;3U;3V;3W;3X;3Y;
   3Z;1hd FRAKTUR e A;4B;4C;4D;4E;4F;4G;4H;4I;4J;4K;4L;4M;4N;4O;4P;4Q;4R;4S;4T;4U;4V;4W;4X;4Y;4Z;3c A;4B;4C;4D;4E;
   4F;4G;4H;4I;4J;4K;4L;4M;4N;4O;4P;4Q;4R;4S;4T;4U;4V;4W;4X;4Y;4Z;1ix e A;3B;3C;3D;3E;3F;3G;3H;3I;3J;3K;3L;3M;3N;
   3O;3P;3Q;3R;3S;3T;3U;3V;3W;3X;3Y;3Z;2c A;3B;3C;3D;3E;3F;3G;3H;3I;3J;3K;3L;3M;3N;3O;3P;3Q;3R;3S;3T;3U;3V;3W;3X;
   3Y;3Z;2hd e A;4B;4C;4D;4E;4F;4G;4H;4I;4J;4K;4L;4M;4N;4O;4P;4Q;4R;4S;4T;4U;4V;4W;4X;4Y;4Z;3c A;4B;4C;4D;4E;4F;4G;
   4H;4I;4J;4K;4L;4M;4N;4O;4P;4Q;4R;4S;4T;4U;4V;4W;4X;4Y;4Z;2pb e A;4B;4C;4D;4E;4F;4G;4H;4I;4J;4K;4L;4M;4N;4O;4P;
   4Q;4R;4S;4T;4U;4V;4W;4X;4Y;4Z;3c A;4B;4C;4D;4E;4F;4G;4H;4I;4J;4K;4L;4M;4N;4O;4P;4Q;4R;4S;4T;4U;4V;4W;4X;4Y;4Z;
   2hd pb e A;5B;5C;5D;5E;5F;5G;5H;5I;5J;5K;5L;5M;5N;5O;5P;5Q;5R;5S;5T;5U;5V;5W;5X;5Y;5Z;4c A;5B;5C;5D;5E;5F;5G;5H;
   5I;5J;5K;5L;5M;5N;5O;5P;5Q;5R;5S;5T;5U;5V;5W;5X;5Y;5Z;1MONOSPACE e A;3B;3C;3D;3E;3F;3G;3H;3I;3J;3K;3L;3M;3N;3O;
   3P;3Q;3R;3S;3T;3U;3V;3W;3X;3Y;3Z;2c A;3B;3C;3D;3E;3F;3G;3H;3I;3J;3K;3L;3M;3N;3O;3P;3Q;3R;3S;3T;3U;3V;3W;3X;3Y;
   3Z;1pb c mt I;4J;@1D6A8 1hd e gg;3js;3iz;3jm;3hx;3ZETA;3ETA;3ih;3gt;3kj;3mw;3MU;3NU;3XI;3kn;3PI;3RHO;3ih z;3ic;
   3TAU;3hr;3PHI;3CHI;3PSI;3fo;2NABLA;2c gg;3js;3iz;3jm;3hx;3ZETA;3ETA;3ih;3gt;3kj;3mw;3MU;3NU;3XI;3kn;3PI;3RHO;
   3o ic;3ic;3TAU;3hr;3PHI;3CHI;3PSI;3fo;2sj uc;2hx z;2ih z;2kj z;2PHI z;2RHO z;2PI z;1pb e gg;3js;3iz;3jm;3hx;
   3ZETA;3ETA;3ih;3gt;3kj;3mw;3MU;3NU;3XI;3kn;3PI;3RHO;3ih z;3ic;3TAU;3hr;3PHI;3CHI;3PSI;3fo;2NABLA;2c gg;3js;3iz;
   3jm;3hx;3ZETA;3ETA;3ih;3gt;3kj;3mw;3MU;3NU;3XI;3kn;3PI;3RHO;3o ic;3ic;3TAU;3hr;3PHI;3CHI;3PSI;3fo;2sj uc;2hx z;
   2ih z;2kj z;2PHI z;2RHO z;2PI z;1hd pb e gg;4js;4iz;4jm;4hx;4ZETA;4ETA;4ih;4gt;4kj;4mw;4MU;4NU;4XI;4kn;4PI;4RHO;
   4ih z;4ic;4TAU;4hr;4PHI;4CHI;4PSI;4fo;3NABLA;3c gg;4js;4iz;4jm;4hx;4ZETA;4ETA;4ih;4gt;4kj;4mw;4MU;4NU;4XI;4kn;
   4PI;4RHO;4o ic;4ic;4TAU;4hr;4PHI;4CHI;4PSI;4fo;3sj uc;3hx z;3ih z;3kj z;3PHI z;3RHO z;3PI z;1ix hd e gg;4js;4iz;
   4jm;4hx;4ZETA;4ETA;4ih;4gt;4kj;4mw;4MU;4NU;4XI;4kn;4PI;4RHO;4ih z;4ic;4TAU;4hr;4PHI;4CHI;4PSI;4fo;3NABLA;3c gg;
   4js;4iz;4jm;4hx;4ZETA;4ETA;4ih;4gt;4kj;4mw;4MU;4NU;4XI;4kn;4PI;4RHO;4o ic;4ic;4TAU;4hr;4PHI;4CHI;4PSI;4fo;
   3sj uc;3hx z;3ih z;3kj z;3PHI z;3RHO z;3PI z;3pb e gg;5js;5iz;5jm;5hx;5ZETA;5ETA;5ih;5gt;5kj;5mw;5MU;5NU;5XI;
   5kn;5PI;5RHO;5ih z;5ic;5TAU;5hr;5PHI;5CHI;5PSI;5fo;4NABLA;4c gg;5js;5iz;5jm;5hx;5ZETA;5ETA;5ih;5gt;5kj;5mw;5MU;
   5NU;5XI;5kn;5PI;5RHO;5o ic;5ic;5TAU;5hr;5PHI;5CHI;5PSI;5fo;4sj uc;4hx z;4ih z;4kj z;4PHI z;4RHO z;4PI z;
   1hd e ud;2c ud;@1D7CE 2bh bt;3m;3l;3s;3w;3aa;3ag;3ao;3ah;3ar;1oz bh bt;3m;3l;3s;3w;3aa;3ag;3ao;3ah;3ar;
   1ix bh bt;3m;3l;3s;3w;3aa;3ag;3ao;3ah;3ar;2hd bh bt;4m;4l;4s;4w;4aa;4ag;4ao;4ah;4ar;1MONOSPACE bh bt;3m;3l;3s;
   3w;3aa;3ag;3ao;3ah;3ar;0SIGNWRITING hn bb;1kv bb;1uj bb;1vr bb;1kh bb;1od bb;1hn bb gw;1kv bb gw;
   1hn cc UNDER bb gw;2bb ia KNUCKLE;3CUPPED;3lj;4bn;1kv bb HINGE;1hn bb ae;1kv bb ae;1hn bb ae gw;4ia KNUCKLES;
   4lj;3UP ae lj;3lj ae UP;3ae kc;5bb gw;5ae gw;5CUPPED;5lj;4nf;1kv bb ae nf;1hn ae gw ay bb;2bb gw ay ae;3ae cc;
   1kv bb ae cc;1hn bb ae iq cc gw;4gw cc iq;4cc gw;4lj nt cc ib;3UP ae lj cc ib;7kc;3lj ae UP cc ib;
   3ae UP nt cc kf;4cc CUPPED;5ds;5HOOKED;5lj;2cc kt bb ae iq;2bb ae kc cc ib;7kc;7gw;2ae cc HOOKED bb UP;
   2bb cc HOOKED ae UP;3ae kc lj cc ib;4nf cc ib;4kc cc kf;5CUPPED cc kf;2ae cc CUPPED bb UP;2bb cc CUPPED ae UP;
   2ae cc ds bb UP;6lj;2bb cc ANGLED OUT ae UP;5IN ae UP;4ds ae UP;3ae cc kc lj;5ANGLED OUT;6;
   2ae cc ANGLED OUT bb UP;7nf;5bb UP;2bb cc HOOKED ae lj;1HAND-FLAT w ik;4gw;4lj;4kc;5SPLIT;1xe w ik kc;
   1hn w ik kc gw;1kh w ik kc;1HAND-FLAT aa ik nt;2HEEL aa ik nt;2aa ik nt w gw;2HEEL aa ik nt w gw;2aa ik nt gw;
   2HEEL aa ik nt gw;2aa ik nt cc kf;1uj aa ik nt;5bw;1kh aa ik nt bw;1vr aa ik nt;1HAND-FLAT aa ik nt lj;6cc ib;
   6NO cc;2;2kt PALM FACINGS;2HEEL;2cc ib;2HEEL cc ib;2cc gw;3kf;2SPLIT bb cc ib;3dm;4cc ib;6gw;3dp;1xe;2cc ib;
   2NO cc;2cc kf;1vq CURLICUE;2;1uj bw;2;2bw cc ib;2cc ib;2bw NO cc;2NO cc;2bw cc kf;2cc kf;1yw bw;2;1kv;1vr;
   2cc ib;2NO cc;2cc kf;1kh bw;3cc kf;2;2c;2bw cc ib;2cc ib;2bw NO cc;2NO cc;2cc ib TOUCHING bb;3kt ae bi;1od;
   1hn bb ae bi;1kv bb ae bi;1kh bb ae bi;1od bb ae bi;1kh dp;1hn bb ae bi gw;5kc;1kh bb ae bi kc;1hn dp an;
   4RIPPLE iq;5oy;4OTHERS ds;3UP;2cc UNDER dp UP;1kv dp UP;1vr dp UP;1od dp UP;1hn dp ia KNUCKLE;3gw;3TOUCHES cc;
   3cc;1kh dp cc;1hn dp bb cc;1kh dp bb cc;1od dp bb cc bb cc OUT;7;1hn dp bb;1kv dp bb;1kh dp bb;1od dp bb;
   1hn bb ae dp;1kv bb ae dp;1kh bb ae dp;2bi;1od bb ae dp;1hn bb ae el dp;1kv bb ae el dp;1hn bi an;
   1kh bi an bb cc x ae;1od bi an ae cc bb el;1hn bi UP;3ia KNUCKLE;3dp;1kv bi dp;1vr bi dp;1od bi dp;1hn bi ae;
   4kc;4ia KNUCKLES;3bb;3cc;1vq bi cc;1hn bb bi dp;1kv bb bi dp;1yw bb bi dp ON;1vq bb bi dp OUT;5IN;5UNDER;
   1uj bb bi dp;1kh bb bi dp;1od bb bi dp OUT;5;1hn ae an;1kh ae;1hn ae UP;1kv ae UP;1hn ae ia KNUCKLE;3UP cc ib;
   1vq ae cc;1hn ae cc dp;3dp;3bi dp;1kv ae bi dp;1yw ae bi dp ON;1uj ae bi dp;1kh ae bi dp;1od ae bi dp OUT;5IN;5;
   1kv ae bi dp gw;1xe ae bi dp kc;6ib;1vq ae bi dp kc OUT;6IN;6;1kh bb lj;1hn bb cc ib;1kh bb cc ib;
   1hn bb cc ib cc ep;6kc;6gw;5bb gw;5BOTH gw;5bb HINGE;4kf bb iq;6gw;4x;4CURLICUE;4kd cc jv;1xe bb cc kd cc jv;
   1hn bb cc kd cc UNDER;4av;1uj bb cc;4bw;1kh bb cc bw;4cq;4;4c;1od bb cc OUT;4IN;4;1hn cc;3HEEL;3ib ep;4kc;4gw;
   3kf;3kt bb ae;4ae bi;4bi dp;3UNDER l ik;3ay l ik;3UNDER s ik;4w ik;3ay w ia KNUCKLES;2;2HEEL;1TOUCH cm;2nl;2kt;
   1GRASP cm;2nl;2kt;1STRIKE cm;2nl;2kt;1BRUSH cm;2nl;2kt;1RUB cm;2nl;2kt;1SURFACE SYMBOLS;2kt;1SQUEEZE cq cm;
   2c cm;2cq nl;2c nl;2yg;1FLICK cq cm;2c cm;2cq nl;2c nl;2yg;1SQUEEZE FLICK ka;1MOVEMENT-HINGE UP an cq;4c;3yg;
   2an yg;2UP an ka cq;5c;2ib TO ib uv;1oj rs tz;1oi rs tz;1oj cm iq c;4bp;4cq;4qv;3ou FLEX;2p iq;3ou FLEX;3ka;
   4ou FLEX;2el;2em iq sc;3ou FLEX;3ka;4ou FLEX;2BEND c;3bp;3cq;2gn c;3bp;3cq;3ROTATION;2nz c;3bp;3cq;2BOX c;3bp;
   3cq;2sy c;3bp;3cq;2PEAKS c;3bp;3cq;1TRAVEL-WALLPLANE wh cm;3p;3ka;2wg cm;3p;3ka;2SHAKING;2ARM SPIRAL cm;4p;4em;
   1MOVEMENT-DIAGONAL AWAY c;3bp;3cq;3qv;2TOWARDS c;3bp;3cq;3qv;2kt AWAY c;4bp;4cq;4qv;3TOWARDS c;4bp;4cq;4qv;
   1oi cm iq c;4bp;4cq;4qv;3ou FLEX;2p iq;3ou FLEX;3ka;4ou FLEX;2el;2em iq sc;3ou FLEX;3ka sc;4ou FLEX;2BEND;2gn c;
   3bp;3cq;2nz;2BOX c;3bp;3cq;2sy c;3bp;3cq;2PEAKS c;3bp;3cq;1TRAVEL-FLOORPLANE wg cm;3p;3ka;2wh cm;3p;3ka;
   2SHAKING;1oj kd gj c;4bp;4cq;4qv;3HALF-CIRCLE c;4bp;4cq;4qv;3THREE-QUARTER av c;5bp;2HUMP c;3bp;3cq;2kl c;3bp;
   3cq;3c p;2jj kd p c;5bp;5cq;4em c;5bp;5cq;2kd THEN iq;2oy el c;4bp;1wh cm;2p;2is;1oj SHAKING;2kd gs FRONT WALL;
   2HUMP gs FRONT WALL;2kl gs FRONT WALL;2jj gs FRONT WALL;1wh cm gs FRONT WALL;2p gs FRONT WALL;2ka gs FRONT WALL;
   1oj kd gs CHEST;2HUMP gs CHEST;2kl gs CHEST;2jj gs CHEST;1wh cm gs CHEST;2p gs CHEST;2ka gs CHEST;
   1oj jj ep PATH c;5bp;5cq;1oi kd gs qn c;5cq;2HUMP gs qn c p;5cq p;5c em;5cq em;2kl gs qn c cm;5cq cm;5c p;5cq p;
   2jj gs qn c;5cq;1wg cm gs qn;2p gs qn;2ka gs qn;1oi kd gs pt c;5cq;2HUMP gs pt c p;5cq p;5em c em;6cq em;
   2kl gs pt c cm;5cq cm;5c p;5cq p;2jj gs pt c;5cq;1wg cm gs pt;2p gs pt;2ka gs pt;1oi kd c;3bp;3cq;3qv;3COMBINED;
   2HUMP c;2kl c;2jj SNAKE;3c;3cq;1wg cm;2p;2ka;1oi SHAKING si;1oj ARM av c cm;4bp cm;4c p;4bp p;
   1oi ARM av gs WALL c cm;6bp cm;6cq cm;6c p;6bp p;6cq p;1oj ou av FRONT cm;5p;1oi ou av gs WALL cm;6p;
   1oj rs nd cm;4p;1oi rs nd gs WALL cm;6p;1DYNAMIC cp c;3cq;2FAST;2SLOW;2TENSE;2RELAXED;2SIMULTANEOUS;3ka;
   2EVERY OTHER TIME;2GRADUAL;1ju;2RIM;2oj iq;3TILT;2oi iq;2oj kd;2oi kd;2sc av;
   1at DIRECTION POSITION NOSE kf TILTING;5UP OR an;8TILTING;1EYEBROWS iq UP;3jb;3an;1DREAMY EYEBROWS jb an;3an jb;
   3UP jb;3jb UP;1FOREHEAD jb;2tz;2tv;1jk bw;2SQUEEZED;2fx;1EYE BLINK cm;3nl;1jk ap bw;2WIDE bw;2ap fx;
   2WIDENING sc;1EYE WINK;1EYELASHES UP;2an;2FLUTTERING;1yu iq;3p;3ka;1zq iq;3p;3ka;1yu oy;1zq oy;1yu CIRCLING;
   1CHEEKS PUFFED;2jb;2SUCKED;1TENSE CHEEKS cf;3ae;3bn;1EARS;1NOSE jb;2tz;2WRINKLES;2WIGGLES;1AIR BLOWING OUT;
   2SUCKING IN;2BLOW c ROTATIONS;2SUCK c ROTATIONS;1BREATH INHALE;2EXHALE;1jl fx jb;3kf;3tz;2SMILE;3tv;3bw;2FROWN;
   3tv;3bw;2bw av;3kf;3tv;3OVAL;4tv;4YAWN;3to;4tv;4YAWN;2KISS;3kf;3tv;2TENSE;3kf;3SUCKED;1LIPS PRESSED TOGETHER;
   1LIP bk ay bv;2bv ay bk;1jl ua;2WRINKLES cm;3p;1TONGUE STICKING OUT FAR;2LICKING LIPS;2TIP kt LIPS;
   3TOUCHING jv jl;2jv jl RELAXED;2MOVES AGAINST CHEEK;2dm STICKING OUT;3jv jl;1TEETH;2sc;2ON TONGUE;4sc;3LIPS;4sc;
   2BITE LIPS;1oj JAW;1oi JAW;1NECK;1HAIR;1EXCITEMENT;1SHOULDER HIP SPINE;3POSITIONS;1WALLPLANE SHOULDER HIP MOVE;
   1FLOORPLANE SHOULDER HIP MOVE;1SHOULDER TILTING gq WAIST;1TORSO-WALLPLANE iq STRETCH;2oy BEND;
   1TORSO-FLOORPLANE TWISTING;1bv BODY TILTING gq HIP JOINTS;1LIMB COMBINATION;2LENGTH-1;+6;1rs;
   1LOCATION-WALLPLANE jf;1LOCATION-FLOORPLANE jf;1LOCATION HEIGHT;2WIDTH;2DEPTH;2ju NECK;2TORSO;2LIMBS DIGITS;1de;
   1eb cn;1oq;1gm;1ex;@1DA9B 1mv MODIFIER-2;+4;@1DAA1 1ROTATION MODIFIER-2;+14;@1DF00 0dz c b FENG hl a TRILL;
   3ch im G;1b c e by G;1c b ch K;1b c e L a BELT;1c b LEZH a ey x;3by Y a BELT;3ch ENG;3by R a bz LEG g ey x;
   3T a x g ey x;1b ey ox a ey x;1c b ESH a p ak;7g iy;3by T a iy;1b cv hm cn a iy;2STRETCHED C a iy;2c e by K;
   1c b L a tf;3DEZH hl a hi x;3L a BELT g hi x;3ENG a hi x;3by R a hi x;3R a tf g hi x;3TESH hl a hi x;
   3EZH a hi x;3DEZH hl a ey x;3I a y g ey x;3O a ey x;3TESH hl a ey x;3C a ey x;3S a iy;
   @1E000 0fj GLAGOLITIC b AZU;3BUKY;3VEDE;3GLAGOLI;3DOBRO;3YESTU;3ZHIVETE;@1E008 3ZEMLJA;3IZHE;3ab IZHE;3I;
   3DJERVI;3KAKO;3LJUDIJE;3MYSLITE;3NASHI;3ONU;3POKOJI;3RITSI;3SLOVO;3TVRIDO;3UKU;3FRITU;3HERU;@1E01B 3SHTA;3TSI;
   3CHRIVI;3cl;3YERU;3YERI;3YATI;@1E023 3YU;3c hk;@1E026 3YO;3uo c hk;3BIG hk;3uo BIG hk;3FITA;
   @1E100 0NYIAKENG PUACHUE HMONG b MA;4hc;4NTA;4TA;4HA;4NA;4XA;4NKA;4CA;4LA;4SA;4ZA;4NCA;4NTSA;4KA;4DA;4cu;4NRA;
   4VA;4NTXA;4TXA;4FA;4RA;4QA;4YA;4NQA;4PA;4XYA;4NPA;4DLA;4NPLA;4br;4MLA;4PLA;4GA;4RRA;4A;4AA;4I;4U;4O;4OO;4E;4EE;
   4W;@1E130 3TONE-B;3TONE-M;3TONE-J;3TONE-V;3TONE-S;3TONE-G;3TONE-D;3f fk lo;5THING;5LOCATION;5ANIMAL;
   5INVERTEBRATE;4XW XW;3lb xm;@1E140 3bh bt;4m;4l;4s;4w;4aa;4ag;4ao;4ah;4ar;@1E14E 3vz NYAJ;3ds CA;
   @1E290 0TOTO b PA;2BA;2TA;2DA;2KA;2GA;2MA;2NA;2ck;2SA;2cs;2YA;2WA;2JA;2HA;2RA;2LA;2I;2BREATHY I;2IU;2BREATHY IU;
   2U;2E;2BREATHY E;2EO;2BREATHY EO;2O;2AE;2BREATHY AE;2A;1f nr cd;@1E2C0 0WANCHO b AA;2A;2BA;2CA;2DA;2GA;2YA;2dq;
   2LA;2NA;2PA;2TA;2df;2FA;2SA;2cl;2JA;2ZA;2WA;2VA;2KA;2O;2AU;2RA;2MA;2cw;2HA;2E;2I;2ck;2U;2LLHA;2hc;2TRA;2ONG;
   2AANG;2ANG;2ING;2ON;2EN;2AAN;2cu;2UEN;2YIH;1cd TUP;2TUPNI;2KOI;2KOINI;1bh bt;2m;2l;2s;2w;2aa;2ag;2ao;2ah;2ar;
   @1E2FF 1NGUN f;@1E7E0 0ETHIOPIC lb HHYA;2HHYU;2HHYI;2HHYAA;2HHYEE;2HHYE;2HHYO;@1E7E8 2GURAGE HHWA;2HHWI;2HHWEE;
   2HHWE;@1E7ED 2GURAGE MWI;3MWEE;@1E7F0 3QWI;3QWEE;3QWE;3BWI;3BWEE;3KWI;3KWEE;3KWE;3GWI;3GWEE;3GWE;3FWI;3FWEE;
   3PWI;3PWEE;@1E800 0MENDE KIKAKUI lb M001 KI;3M002 KA;3M003 KU;3M065 KEE;3M095 KE;3M076 KOO;3M048 KO;3M179 KUA;
   3M004 WI;3M005 WA;3M006 WU;3M126 WEE;3M118 WE;3M114 WOO;3M045 WO;3M194 WUI;3M143 WEI;3M061 WVI;3M049 WVA;
   3M139 WVE;3M007 MIN;3M008 MAN;3M009 MUN;3M059 MEN;3M094 MON;3M154 MUAN;3M189 MUEN;3M010 BI;3M011 BA;3M012 BU;
   3M150 BEE;3M097 BE;3M103 BOO;3M138 BO;3M013 I;3M014 A;3M015 U;3M163 EE;3M100 E;3M165 OO;3M147 O;3M137 EI;
   3M131 IN;3M135 IN;3M195 AN;3M178 EN;3M019 SI;3M020 SA;3M021 SU;3M162 SEE;3M116 SE;3M136 SOO;3M079 SO;3M196 SIA;
   3M025 LI;3M026 LA;3M027 LU;3M084 LEE;3M073 LE;3M054 LOO;3M153 LO;3M110 bz LE;3M016 DI;3M017 DA;3M018 DU;
   3M089 DEE;3M180 DOO;3M181 DO;3M022 TI;3M023 TA;3M024 TU;3M091 TEE;3M055 TE;3M104 TOO;3M069 TO;3M028 JI;3M029 JA;
   3M030 JU;3M157 JEE;3M113 JE;3M160 JOO;3M063 JO;3M175 bz JO;3M031 YI;3M032 YA;3M033 YU;3M109 YEE;3M080 YE;
   3M141 YOO;3M121 YO;3M034 FI;3M035 FA;3M036 FU;3M078 FEE;3M075 FE;3M133 FOO;3M088 FO;3M197 FUA;3M101 FAN;
   3M037 NIN;3M038 NAN;3M039 ej;3M117 NEN;3M169 NON;3M176 HI;3M041 HA;3M186 HU;3M040 HEE;3M096 HE;3M042 HOO;
   3M140 HO;3M083 HEEI;3M128 HOOU;3M053 HIN;3M130 HAN;3M087 HUN;3M052 HEN;3M193 HON;3M046 HUAN;3M090 NGGI;
   3M043 NGGA;3M082 NGGU;3M115 NGGEE;3M146 NGGE;3M156 NGGOO;3M120 NGGO;3M159 NGGAA;3M127 NGGUA;3M086 bz NGGE;
   3M106 bz NGGOO;3M183 bz NGGO;3M155 GI;3M111 GA;3M168 GU;3M190 GEE;3M166 GUEI;3M167 GUAN;3M184 NGEN;3M057 NGON;
   3M177 NGUAN;3M068 PI;3M099 PA;3M050 PU;3M081 PEE;3M051 PE;3M102 POO;3M066 PO;3M145 MBI;3M062 MBA;3M122 MBU;
   3M047 MBEE;3M188 MBEE;3M072 MBE;3M172 MBOO;3M174 MBO;3M187 MBUU;3M161 bz MBE;3M105 bz MBOO;3M142 bz MBO;
   3M132 KPI;3M092 KPA;3M074 KPU;3M044 KPEE;3M108 KPE;3M112 KPOO;3M158 KPO;3M124 GBI;3M056 GBA;3M148 GBU;
   3M093 GBEE;3M107 GBE;3M071 GBOO;3M070 GBO;3M171 RA;3M123 NDI;3M129 NDA;3M125 NDU;3M191 NDEE;3M119 NDE;
   3M067 NDOO;3M064 NDO;3M152 NJA;3M192 NJU;3M149 NJEE;3M134 NJOO;3M182 VI;3M185 VA;3M151 VU;3M173 VEE;3M085 VE;
   3M144 VOO;3M077 VO;3M164 NYIN;3M058 NYAN;3M170 NYUN;3M098 NYEN;3M060 NYON;@1E8C7 2bh m;3l;3s;3w;3aa;3ag;3ao;3ah;
   3ar;2fj cz TEENS;4TENS;4HUNDREDS;4su;4ca su;4aq su;4tk;@1E900 0ADLAM e b ALIF;3DAALI;3LAAM;3MIIM;3BA;
   3SINNYIIYHE;3PE;3BHE;3RA;3E;3FA;3I;3O;3eh;3YHE;3fq;3ej;3gy;3YA;3U;3JIIM;3CHI;3HA;3QAAF;3GA;3cu;3TU;3NHA;3VA;3cw;
   3GBE;3ZAL;3KPO;3cl;1c b ALIF;3DAALI;3LAAM;3MIIM;3BA;3SINNYIIYHE;3PE;3BHE;3RA;3E;3FA;3I;3O;3eh;3YHE;3fq;3ej;3gy;
   3YA;3U;3JIIM;3CHI;3HA;3QAAF;3GA;3cu;3TU;3NHA;3VA;3cw;3GBE;3ZAL;3KPO;3cl;1ALIF xm;1bf xm;1vo q;1fu;1it gz;
   1GEMINATE it gz;1ig;1za q;@1E950 1bh bt;2m;2l;2s;2w;2aa;2ag;2ao;2ah;2ar;@1E95E 1ab hy q;2hj q;
   @1EC71 0INDIC SIYAQ cz m;3l;3s;3w;3aa;3ag;3ao;3ah;3ar;3ca;3fd;3jg;3ke;3gh;3ky;3gc;3lx;3fn;3m aq;3l aq;3s aq;
   3w aq;3aa aq;3ag aq;3ao aq;3ah aq;3ar aq;3m az;3l az;3s az;3w az;3aa az;3ag az;3ao az;3ah az;3ar az;3ca az;
   3fd az;3jg az;3ke az;3gh az;3ky az;3gc az;3lx az;3fn az;3LAKH;3LAKHAN;2LAKH q;2cz KAROR;3KARORAN;3PREFIXED m;4l;
   4s;4w;4aa;4ag;4ao;4ah;4ar;2PLACEHOLDER;2jt m gj;4ap;3s mh;2RUPEE q;2cz is m;4l;4ca az;2is LAKH q;
   @1ED01 0OTTOMAN SIYAQ cz m;3l;3s;3w;3aa;3ag;3ao;3ah;3ar;3ca;3fd;3jg;3ke;3gh;3ky;3gc;3lx;3fn;3m aq;3l aq;3s aq;
   3w aq;3aa aq;3ag aq;3ao aq;3ah aq;3ar aq;3m az;3l az;3s az;3w az;3aa az;3ag az;3ao az;3ah az;3ar az;3ca az;
   3fd az;3jg az;3ke az;3gh az;3ky az;3gc az;3lx az;3fn az;2MARRATAN;2is cz l;4s;4w;4aa;4ag;4ao;4ah;4ar;4ca;4w aq;
   4ag aq;4l az;4ca az;2jt m ap;4SIXTH;@1EE00 0jp us ba;2BEH;2bx;2DAL;@1EE05 2fq;2mn;2br;2TAH;2ax;2gy;2ft;2aj;2fl;
   2hv;2gf;2FEH;2SAD;2QAF;2gu;2jx;2TEH;2THEH;2dt;2THAL;2DAD;2ZAH;2ku;2mt BEH;3fl;3FEH;3QAF;@1EE21 2ab BEH;3bx;
   @1EE24 3hg;@1EE27 3br;@1EE29 3ax;3gy;3ft;3aj;3fl;3hv;3gf;3FEH;3SAD;3QAF;@1EE34 3jx;3TEH;3THEH;3dt;@1EE39 3DAD;
   @1EE3B 3ku;@1EE42 2TAILED bx;@1EE47 3br;@1EE49 3ax;@1EE4B 3ft;@1EE4D 3fl;3hv;3gf;@1EE51 3SAD;3QAF;@1EE54 3jx;
   @1EE57 3dt;@1EE59 3DAD;@1EE5B 3ku;@1EE5D 3mt fl;@1EE5F 4QAF;@1EE61 2STRETCHED BEH;3bx;@1EE64 3hg;@1EE67 3br;
   3TAH;3ax;3gy;@1EE6C 3aj;3fl;3hv;3gf;3FEH;3SAD;3QAF;@1EE74 3jx;3TEH;3THEH;3dt;@1EE79 3DAD;3ZAH;3ku;3mt BEH;
   @1EE7E 4FEH;@1EE80 2LOOPED ba;3BEH;3bx;3DAL;3hg;3fq;3mn;3br;3TAH;3ax;@1EE8B 3ft;3aj;3fl;3hv;3gf;3FEH;3SAD;3QAF;
   3gu;3jx;3TEH;3THEH;3dt;3THAL;3DAD;3ZAH;3ku;@1EEA1 2oz BEH;3bx;3DAL;@1EEA5 3fq;3mn;3br;3TAH;3ax;@1EEAB 3ft;3aj;
   3fl;3hv;3gf;3FEH;3SAD;3QAF;3gu;3jx;3TEH;3THEH;3dt;3THAL;3DAD;3ZAH;3ku;@1EEF0 2es aj a br a TATWEEL;3br a DAL;
   @1F000 0MAHJONG TILE da WIND;2ev WIND;2dv WIND;2ei WIND;2RED ro;2GREEN ro;2v ro;2m OF qo;2l OF qo;2s OF qo;
   2w OF qo;2aa OF qo;2ag OF qo;2ao OF qo;2ah OF qo;2ar OF qo;2m OF ql;2l OF ql;2s OF ql;2w OF ql;2aa OF ql;
   2ag OF ql;2ao OF ql;2ah OF ql;2ar OF ql;2m OF nd;2l OF nd;2s OF nd;2w OF nd;2aa OF nd;2ag OF nd;2ao OF nd;
   2ah OF nd;2ar OF nd;2PLUM;2ORCHID;2BAMBOO;2CHRYSANTHEMUM;2SPRING;2SUMMER;2AUTUMN;2WINTER;2JOKER;2BACK;
   @1F030 0DOMINO TILE bd BACK;2HORIZONTAL-00-00;+6;2HORIZONTAL-01-00;+6;2HORIZONTAL-02-00;+6;2HORIZONTAL-03-00;+6;
   2HORIZONTAL-04-00;+6;2HORIZONTAL-05-00;+6;2HORIZONTAL-06-00;+6;2af BACK;2VERTICAL-00-00;+6;2VERTICAL-01-00;+6;
   2VERTICAL-02-00;+6;2VERTICAL-03-00;+6;2VERTICAL-04-00;+6;2VERTICAL-05-00;+6;2VERTICAL-06-00;+6;
   @1F0A0 0PLAYING CARD BACK;2ACE OF my;2l OF my;2s OF my;2w OF my;2aa OF my;2ag OF my;2ao OF my;2ah OF my;
   2ar OF my;2ca OF my;2JACK OF my;2ho OF my;2lp OF my;2kk OF my;@1F0B1 2ACE OF kw;2l OF kw;2s OF kw;2w OF kw;
   2aa OF kw;2ag OF kw;2ao OF kw;2ah OF kw;2ar OF kw;2ca OF kw;2JACK OF kw;2ho OF kw;2lp OF kw;2kk OF kw;
   2RED JOKER;@1F0C1 2ACE OF ms;2l OF ms;2s OF ms;2w OF ms;2aa OF ms;2ag OF ms;2ao OF ms;2ah OF ms;2ar OF ms;
   2ca OF ms;2JACK OF ms;2ho OF ms;2lp OF ms;2kk OF ms;2t JOKER;@1F0D1 2ACE OF mp;2l OF mp;2s OF mp;2w OF mp;
   2aa OF mp;2ag OF mp;2ao OF mp;2ah OF mp;2ar OF mp;2ca OF mp;2JACK OF mp;2ho OF mp;2lp OF mp;2kk OF mp;2v JOKER;
   2FOOL;2TRUMP-1;+20;@1F100 0bh bt eb cn;2de;1m de;1l de;1s de;1w de;1aa de;1ag de;1ao de;1ah de;1ar de;
   0DINGBAT ds ix bh bt;1ln ds ix bh bt;0ds bt a ls;1kb h;1td f a OVERLAID ta;0xt dz e b A;4B;4C;4D;4E;4F;4G;4H;4I;
   4J;4K;4L;4M;4N;4O;4P;4Q;4R;4S;4T;4U;4V;4W;4X;4Y;4Z;0kq io BRACKETED dz e b S;0ds pb dz e b C;5R;1CD;1WZ;
   0COPYLEFT z;0ga dz e b A;4B;4C;4D;4E;4F;4G;4H;4I;4J;4K;4L;4M;4N;4O;4P;4Q;4R;4S;4T;4U;4V;4W;4X;4Y;4Z;1HV;1MV;1SD;
   1SS;1PPV;1WC;0ln ds dz e b A;5B;5C;5D;5E;5F;5G;5H;5I;5J;5K;5L;5M;5N;5O;5P;5Q;5R;5S;5T;5U;5V;5W;5X;5Y;5Z;
   0ia MC f;1MD f;1MR f;0ds CC;1C a OVERLAID ta;1HUMAN FIGURE;0ln ga dz e b A;5B;5C;5D;5E;5F;5G;5H;5I;5J;5K;5L;5M;
   5N;5O;5P;5Q;5R;5S;5T;5U;5V;5W;5X;5Y;5Z;0nf ln ga dz e b P;0ln ga IC;2PA;2SA;2AB;2WC;0au DJ;0ga CL;1COOL;1FREE;
   1ID;1NEW;1NG;1OK;1SOS;1UP a hy q;1VS;1s D;1SECOND SCREEN;1l K;1w K;1ah K;1aa no m;1ao no m;1TWENTY-TWO no l;
   1ky P;1m aq fd P;1dz c b D;1HC;1HDR;1HI-RES;1LOSSLESS;1SHV;1UHD;1VOD;0MASK WORK z;@1F1E6 0REGIONAL rv z b A;4B;
   4C;4D;4E;4F;4G;4H;4I;4J;4K;4L;4M;4N;4O;4P;4Q;4R;4S;4T;4U;4V;4W;4X;4Y;4Z;0au uk HOKA;0ga pc KOKO;2SA;
   @1F210 1CJK UNIFIED IDEOGRAPH-624B;3IDEOGRAPH-5B57;3IDEOGRAPH-53CC;1pc DE;1CJK UNIFIED IDEOGRAPH-4E8C;
   3IDEOGRAPH-591A;3IDEOGRAPH-89E3;3IDEOGRAPH-5929;3IDEOGRAPH-4EA4;3IDEOGRAPH-6620;3IDEOGRAPH-7121;3IDEOGRAPH-6599;
   3IDEOGRAPH-524D;3IDEOGRAPH-5F8C;3IDEOGRAPH-518D;3IDEOGRAPH-65B0;3IDEOGRAPH-521D;3IDEOGRAPH-7D42;3IDEOGRAPH-751F;
   3IDEOGRAPH-8CA9;3IDEOGRAPH-58F0;3IDEOGRAPH-5439;3IDEOGRAPH-6F14;3IDEOGRAPH-6295;3IDEOGRAPH-6355;3IDEOGRAPH-4E00;
   3IDEOGRAPH-4E09;3IDEOGRAPH-904A;3IDEOGRAPH-5DE6;3IDEOGRAPH-4E2D;3IDEOGRAPH-53F3;3IDEOGRAPH-6307;3IDEOGRAPH-8D70;
   3IDEOGRAPH-6253;3IDEOGRAPH-7981;3IDEOGRAPH-7A7A;3IDEOGRAPH-5408;3IDEOGRAPH-6E80;3IDEOGRAPH-6709;3IDEOGRAPH-6708;
   3IDEOGRAPH-7533;3IDEOGRAPH-5272;3IDEOGRAPH-55B6;3IDEOGRAPH-914D;
   @1F240 0kq io BRACKETED CJK UNIFIED IDEOGRAPH-672C;5IDEOGRAPH-4E09;5IDEOGRAPH-4E8C;5IDEOGRAPH-5B89;
   5IDEOGRAPH-70B9;5IDEOGRAPH-6253;5IDEOGRAPH-76D7;5IDEOGRAPH-52DD;5IDEOGRAPH-6557;@1F250 0ds xi ADVANTAGE;2ACCEPT;
   @1F260 0qd z fk FU;3LU;3SHOU;3XI;3SHUANGXI;3CAI;@1F300 0CYCLONE;0FOGGY;0fx wm;0NIGHT a STARS;
   0SUNRISE ay MOUNTAINS;1;0CITYSCAPE AT DUSK;0SUNSET ay BUILDINGS;0RAINBOW;0BRIDGE AT NIGHT;0nx jj;0VOLCANO;
   0MILKY WAY;0mu GLOBE EUROPE-AFRICA;2AMERICAS;2ASIA-AUSTRALIA;0GLOBE a MERIDIANS;0NEW hz z;0WAXING ub hz z;
   0FIRST gj hz z;0WAXING GIBBOUS hz z;0eb hz z;0WANING GIBBOUS hz z;0LAST gj hz z;0WANING ub hz z;0ub hz;
   0NEW hz a at;0FIRST gj hz a at;0LAST gj hz a at;0eb hz a at;0SUN a at;0GLOWING dk;0SHOOTING dk;0THERMOMETER;
   0t DROPLET;0v SUN;2a c CLOUD;2BEHIND CLOUD;4a RAIN;0CLOUD a RAIN;2SNOW;2xn;2TORNADO;0FOG;0WIND BLOWING at;
   0HOT DOG;0TACO;0BURRITO;0CHESTNUT;0SEEDLING;0EVERGREEN TREE;0DECIDUOUS TREE;0PALM TREE;0CACTUS;0HOT PEPPER;
   0TULIP;0CHERRY BLOSSOM;0ROSE;0HIBISCUS;0SUNFLOWER;0BLOSSOM;0EAR OF MAIZE;2RICE;0HERB;0w ja CLOVER;0MAPLE ja;
   0FALLEN ja;0ja FLUTTERING IN WIND;0MUSHROOM;0TOMATO;0AUBERGINE;0GRAPES;0MELON;0WATERMELON;0TANGERINE;0LEMON;
   0BANANA;0PINEAPPLE;0RED APPLE;0GREEN APPLE;0PEAR;0PEACH;0CHERRIES;0STRAWBERRY;0HAMBURGER;0SLICE OF PIZZA;
   0MEAT ON BONE;0POULTRY LEG;0RICE CRACKER;1BALL;0COOKED RICE;0CURRY g RICE;0STEAMING BOWL;0SPAGHETTI;0BREAD;
   0FRENCH FRIES;0ROASTED SWEET POTATO;0DANGO;0ODEN;0SUSHI;0FRIED SHRIMP;0FISH CAKE a SWIRL DESIGN;0SOFT ICE CREAM;
   0SHAVED ICE;0ICE CREAM;0DOUGHNUT;0COOKIE;0CHOCOLATE ak;0CANDY;0LOLLIPOP;0CUSTARD;0HONEY POT;0SHORTCAKE;
   0BENTO BOX;0POT OF FOOD;0COOKING;0FORK g KNIFE;0TEACUP WITHOUT HANDLE;0SAKE BOTTLE g CUP;0WINE GLASS;
   0COCKTAIL GLASS;0TROPICAL DRINK;0BEER MUG;0CLINKING BEER MUGS;0BABY BOTTLE;0FORK g KNIFE a PLATE;
   0BOTTLE a POPPING CORK;0POPCORN;0RIBBON;0WRAPPED PRESENT;0BIRTHDAY CAKE;0JACK-O-LANTERN;0CHRISTMAS TREE;
   0FATHER CHRISTMAS;0FIREWORKS;0FIREWORK SPARKLER;0BALLOON;0PARTY POPPER;0CONFETTI BALL;0TANABATA TREE;0nf FLAGS;
   0PINE DECORATION;0th DOLLS;0CARP STREAMER;0WIND CHIME;0hz VIEWING CEREMONY;0SCHOOL SATCHEL;0GRADUATION CAP;
   0hf a TIP ON fp k;0BOUQUET OF FLOWERS;0MILITARY MEDAL;0REMINDER RIBBON;0nm vx a JACKS;0STUDIO MICROPHONE;
   0LEVEL SLIDER;0qp KNOBS;0BEAMED ASCENDING nm NOTES;1DESCENDING nm NOTES;0FILM FRAMES;0ADMISSION TICKETS;
   0CAROUSEL HORSE;0FERRIS WHEEL;0ROLLER COASTER;0FISHING POLE g FISH;0MICROPHONE;0MOVIE CAMERA;0CINEMA;0HEADPHONE;
   0ARTIST PALETTE;0fa HAT;0CIRCUS TENT;0TICKET;0CLAPPER BOARD;0PERFORMING ARTS;0VIDEO GAME;0DIRECT HIT;
   0SLOT MACHINE;0BILLIARDS;0GAME DIE;0BOWLING;0FLOWER PLAYING CARDS;0nm jo;0nl nm NOTES;0SAXOPHONE;0GUITAR;0nm vx;
   0TRUMPET;0VIOLIN;0nm SCORE;0RUNNING SHIRT a SASH;0TENNIS RACQUET g BALL;0SKI g SKI BOOT;0BASKETBALL g HOOP;
   0CHEQUERED FLAG;0SNOWBOARDER;0RUNNER;0SURFER;0SPORTS MEDAL;0TROPHY;0HORSE RACING;0AMERICAN FOOTBALL;
   0RUGBY FOOTBALL;0SWIMMER;0WEIGHT LIFTER;0GOLFER;0RACING MOTORCYCLE;1CAR;0CRICKET BAT g BALL;0VOLLEYBALL;
   0FIELD HOCKEY STICK g BALL;0ICE HOCKEY STICK g PUCK;0TABLE TENNIS PADDLE g BALL;0SNOW CAPPED sb;0CAMPING;
   0BEACH a wm;0vi ys;0HOUSE BUILDINGS;0CITYSCAPE;0DERELICT HOUSE vi;0CLASSICAL vi;0DESERT;1ISLAND;0NATIONAL PARK;
   0STADIUM;0HOUSE vi;1a GARDEN;0OFFICE vi;0th POST OFFICE;0EUROPEAN POST OFFICE;0HOSPITAL;0BANK;
   0AUTOMATED TELLER MACHINE;0HOTEL;0LOVE HOTEL;0CONVENIENCE STORE;0SCHOOL;0DEPARTMENT STORE;0FACTORY;
   0IZAKAYA LANTERN;0th CASTLE;0EUROPEAN CASTLE;0v PENNANT;0t PENNANT;0WAVING v FLAG;1t FLAG;0ROSETTE;0t ROSETTE;
   0LABEL;0BADMINTON RACQUET g SHUTTLECOCK;0BOW g h;0AMPHORA;0EMOJI gz FITZPATRICK TYPE-1-2;3TYPE-3;+3;0RAT;0MOUSE;
   0OX;0nx BUFFALO;0COW;0TIGER;0LEOPARD;0RABBIT;0CAT;0ro;0CROCODILE;0WHALE;0SNAIL;0SNAKE;0HORSE;0RAM;0GOAT;0SHEEP;
   0MONKEY;0ROOSTER;0CHICKEN;0DOG;0PIG;0BOAR;0ELEPHANT;0OCTOPUS;0SPIRAL io;0BUG;0ANT;0HONEYBEE;0LADY BEETLE;0FISH;
   0TROPICAL FISH;0BLOWFISH;0TURTLE;0HATCHING CHICK;0BABY CHICK;0FRONT-FACING BABY CHICK;0BIRD;0PENGUIN;0KOALA;
   0POODLE;0DROMEDARY CAMEL;0BACTRIAN CAMEL;0DOLPHIN;0MOUSE at;0COW at;0TIGER at;0RABBIT at;0CAT at;0ro at;
   0SPOUTING WHALE;0HORSE at;0MONKEY at;0DOG at;0PIG at;0FROG at;0HAMSTER at;0WOLF at;0BEAR at;0PANDA at;0PIG NOSE;
   0PAW PRINTS;0CHIPMUNK;0jk;0EYE;0EAR;0NOSE;0jl;0TONGUE;0v UP cy rf bb;1an cy rf bb;1k cy rf bb;1i cy rf bb;
   0FISTED gr f;0WAVING gr f;0OK gr f;0THUMBS UP f;1an f;0CLAPPING HANDS f;0bw HANDS f;0CROWN;0WOMANS HAT;
   0EYEGLASSES;0NECKTIE;0T-SHIRT;0JEANS;0DRESS;0KIMONO;0BIKINI;0WOMANS CLOTHES;0PURSE;0HANDBAG;0POUCH;0MANS SHOE;
   0ATHLETIC SHOE;0HIGH-HEELED SHOE;0WOMANS SANDAL;1BOOTS;0FOOTPRINTS;0BUST IN yh;0BUSTS IN yh;0BOY;0GIRL;0MAN;
   0WOMAN;0FAMILY;0MAN g WOMAN ul HANDS;0l MEN ul HANDS;1WOMEN ul HANDS;0POLICE OFFICER;0WOMAN a BUNNY EARS;
   0BRIDE a VEIL;0lo a BLOND HAIR;0MAN a GUA PI MAO;2TURBAN;0OLDER MAN;1WOMAN;0BABY;0ys WORKER;0PRINCESS;0th OGRE;
   1GOBLIN;0GHOST;0BABY ANGEL;0EXTRATERRESTRIAL ALIEN;0ALIEN MONSTER;0IMP;0SKULL;0un DESK lo;0GUARDSMAN;0DANCER;
   0LIPSTICK;0NAIL POLISH;0at MASSAGE;0HAIRCUT;0BARBER POLE;0SYRINGE;0PILL;0KISS q;0LOVE b;0bi;0GEM STONE;0KISS;
   0BOUQUET;0COUPLE a hf;0WEDDING;0BEATING hf;0BROKEN hf;0l kw;0SPARKLING hf;0GROWING hf;0hf a h;0BLUE hf;
   0GREEN hf;0YELLOW hf;0PURPLE hf;0hf a RIBBON;0REVOLVING kw;0hf DECORATION;0fh SHAPE a A r jv;0ELECTRIC be BULB;
   0ANGER z;0BOMB;0SLEEPING z;0COLLISION z;0SPLASHING SWEAT z;0DROPLET;0ew z;0PILE OF POO;0FLEXED BICEPS;0DIZZY z;
   0SPEECH BALLOON;0THOUGHT BALLOON;0v FLOWER;0aq POINTS z;0MONEY BAG;0vl EXCHANGE;0ad td f;0CREDIT CARD;
   0BANKNOTE a YEN f;2td f;2EURO f;2POUND f;0MONEY a WINGS;0CHART a bq TREND g YEN f;0SEAT;0PERSONAL COMPUTER;
   0BRIEFCASE;0MINIDISC;0FLOPPY DISK;0OPTICAL DISC;0DVD;0FILE tg;0bw FILE tg;0PAGE a iy;1FACING UP;0CALENDAR;
   0TEAR-OFF CALENDAR;0CARD bb;0CHART a bq TREND;2bj TREND;0ak CHART;0CLIPBOARD;0PUSHPIN;0oo PUSHPIN;0PAPERCLIP;
   0iq RULER;0jh RULER;0BOOKMARK TABS;0LEDGER;0NOTEBOOK;1a DECORATIVE COVER;0fx BOOK;0bw BOOK;0GREEN BOOK;
   0BLUE BOOK;0ORANGE BOOK;0BOOKS;0NAME BADGE;0SCROLL;0MEMO;0ot RECEIVER;0PAGER;0FAX MACHINE;0SATELLITE ANTENNA;
   0PUBLIC ADDRESS LOUDSPEAKER;0CHEERING MEGAPHONE;0OUTBOX TRAY;0INBOX TRAY;0PACKAGE;0E-MAIL z;0INCOMING qt;
   0qt a bj h j;0fx MAILBOX a LOWERED FLAG;3ia FLAG;0bw MAILBOX a ia FLAG;3LOWERED FLAG;0POSTBOX;0POSTAL gb;
   0NEWSPAPER;0MOBILE PHONE;2a ac h AT k;0VIBRATION MODE;0MOBILE PHONE OFF;0NO MOBILE PHONES;0ANTENNA a BARS;
   0CAMERA;1a FLASH;0VIDEO CAMERA;0TELEVISION;0RADIO;0VIDEOCASSETTE;0FILM PROJECTOR;0PORTABLE STEREO;0PRAYER BEADS;
   0TWISTED ac le;0ne ac g am bw av le;7a ds m iw;1bj g bq bw av le;0kb bj g bq bw av le;0bn BRIGHTNESS z;
   0cf BRIGHTNESS z;0SPEAKER a wt y;1;1a m la jj;2s la WAVES;0BATTERY;0ELECTRIC PLUG;0jn MAGNIFYING GLASS;
   0il MAGNIFYING GLASS;0LOCK a INK PEN;0fx LOCK a KEY;0KEY;0LOCK;0bw LOCK;0BELL;1a wt y;0BOOKMARK;0LINK z;
   0RADIO BUTTON;0BACK a am h j;0fs a am h j;0ON a hy q a k i h j;0SOON a ac h j;0fa a bq h j;0NO m UNDER qs z;
   0KEYCAP ca;0INPUT z fk dz e LETTERS;4c LETTERS;3NUMBERS;3SYMBOLS;3dz LETTERS;0FIRE;0ELECTRIC TORCH;0WRENCH;
   0HAMMER;0NUT g BOLT;0HOCHO;0PISTOL;0MICROSCOPE;0TELESCOPE;0CRYSTAL BALL;0ag fz dk a ae r;0th z fk BEGINNER;
   0TRIDENT EMBLEM;0t au BUTTON;0v au BUTTON;0cq RED av;1BLUE av;1ORANGE fh;1BLUE fh;0c ORANGE fh;1BLUE fh;
   0nb RED bl;0oa RED bl;0nb c RED bl;0oa c RED bl;0bk i ns v av;0bv i ns v av;0ds el POMMEE;
   0el POMMEE a HALF-CIRCLE n;2;0qx k wi a s aw;1i wi a s aw;0z fk MARKS CHAPTER;0v dz el;0ad dz el;0CELTIC el;
   0OM z;0DOVE OF PEACE;0KAABA;0MOSQUE;0SYNAGOGUE;0MENORAH a ar BRANCHES;0BOWL OF HYGIEIA;0CLOCK at m ol;2l ol;
   2s ol;2w ol;2aa ol;2ag ol;2ao ol;2ah ol;2ar ol;2ca ol;2ob ol;2na ol;2ONE-THIRTY;2TWO-THIRTY;2THREE-THIRTY;
   2FOUR-THIRTY;2FIVE-THIRTY;2SIX-THIRTY;2SEVEN-THIRTY;2EIGHT-THIRTY;2NINE-THIRTY;2TEN-THIRTY;2ELEVEN-THIRTY;
   2TWELVE-THIRTY;0i SPEAKER;2a m la jj;3s la WAVES;0BULLHORN;1a la WAVES;0RINGING BELL;0BOOK;0CANDLE;
   0MANTELPIECE CLOCK;0t SKULL g CROSSBONES;0NO PIRACY;0HOLE;0MAN IN BUSINESS SUIT LEVITATING;0SLEUTH OR SPY;
   0DARK SUNGLASSES;0SPIDER;1WEB;0JOYSTICK;0MAN DANCING;0k gr ot RECEIVER;0ot RECEIVER a PAGE;0i gr ot RECEIVER;
   0v TOUCHTONE ot;0t TOUCHTONE ot;0ot ON fa OF MODEM;0CLAMSHELL MOBILE PHONE;0BACK OF qt;0STAMPED qt;0qt a xn;
   0FLYING qt;0PEN ay STAMPED qt;0LINKED PAPERCLIPS;0t PUSHPIN;0bk k PENCIL;2BALLPOINT PEN;2FOUNTAIN PEN;
   2PAINTBRUSH;2CRAYON;0k WRITING gr;0by OK gr f;0ia gr a ik SPLAYED;0ch ia gr a ik SPLAYED;1THUMBS UP f;2an f;
   1VICTORY gr;1gr a ae rs rq;0ia gr a PART kt ae g bi ik;0v an cy k gr bb;0rb v k cy bb;2i cy bb;1t k cy bb;
   2i cy bb;0t k cy rf bb;1i cy rf bb;0rb v UP cy bb;2an cy bb;1t UP cy bb;2an cy bb;0t UP cy rf bb;1an cy rf bb;
   1hf;0DESKTOP COMPUTER;0vx g MOUSE;0s NETWORKED COMPUTERS;0PRINTER;0POCKET CALCULATOR;0t HARD io FLOPPY DISK;
   0v HARD io FLOPPY DISK;0SOFT io FLOPPY DISK;0TAPE CARTRIDGE;0WIRED vx;0m BUTTON MOUSE;0l BUTTON MOUSE;
   0s BUTTON MOUSE;0TRACKBALL;0du PERSONAL COMPUTER;0HARD DISK;0SCREEN;0PRINTER ICON;0FAX ICON;0OPTICAL DISC ICON;
   0DOCUMENT a TEXT;3g PICTURE;2PICTURE;0FRAME a PICTURE;2TILES;2AN X;0t tg;0tg;0bw tg;0CARD bb DIVIDERS;1FILE BOX;
   0FILE CABINET;0EMPTY jo;2PAGE;2PAD;0jo;1PAGE;1PAD;0EMPTY DOCUMENT;1PAGE;1PAGES;0DOCUMENT;0PAGE;0PAGES;
   0WASTEBASKET;0SPIRAL jo PAD;1CALENDAR PAD;0DESKTOP WINDOW;0MINIMIZE;0MAXIMIZE;0OVERLAP;0ne i g k wi le;0wt X;
   0INCREASE FONT SIZE z;0DECREASE FONT SIZE z;0COMPRESSION;0du KEY;0ROLLED-UP NEWSPAPER;0PAGE a ds TEXT;
   0STOCK CHART;0DAGGER KNIFE;0LIPS;0SPEAKING ju IN yh;0s RAYS j;2n;2k;2i;0k SPEECH qm;0i SPEECH qm;
   0l SPEECH BUBBLES;0s SPEECH BUBBLES;0k THOUGHT qm;0i THOUGHT qm;0k ANGER qm;0i ANGER qm;0MOOD qm;0xn MOOD qm;2;
   0tb BOX a tb;1im X;1BOX a im X;1hd im X;1BOX a hd im X;0be nz q;0tb BOX a hd nz;0WORLD MAP;0MOUNT FUJI;
   0TOKYO TOWER;0STATUE OF LIBERTY;0yh OF JAPAN;0MOYAI;0GRINNING at;2a kz jk;0at a TEARS OF JOY;0kz at a bw jl;
   5g kz jk;6COLD SWEAT;6TIGHTLY-CLOSED jk;3HALO;3HORNS;0WINKING at;0kz at a kz jk;0at SAVOURING DELICIOUS FOOD;
   0RELIEVED at;0kz at a HEART-SHAPED jk;3SUNGLASSES;0SMIRKING at;0jb at;0EXPRESSIONLESS at;0UNAMUSED at;
   0at a COLD SWEAT;0PENSIVE at;0CONFUSED at;0CONFOUNDED at;0KISSING at;0at THROWING A KISS;0KISSING at a kz jk;
   3fx jk;0at a STUCK-OUT TONGUE;4g WINKING EYE;5TIGHTLY-CLOSED jk;0DISAPPOINTED at;0WORRIED at;0ANGRY at;
   0POUTING at;0CRYING at;0PERSEVERING at;0at a LOOK OF TRIUMPH;0DISAPPOINTED BUT RELIEVED at;0FROWNING at a bw jl;
   0ANGUISHED at;0FEARFUL at;0WEARY at;0SLEEPY at;0TIRED at;0GRIMACING at;0LOUDLY CRYING at;0at a bw jl;0HUSHED at;
   0at a bw jl g COLD SWEAT;1SCREAMING IN FEAR;0ASTONISHED at;0FLUSHED at;0SLEEPING at;0DIZZY at;0at WITHOUT jl;
   1a MEDICAL MASK;0GRINNING CAT at a kz jk;0CAT at a TEARS OF JOY;0kz CAT at a bw jl;4HEART-SHAPED jk;
   0CAT at a WRY SMILE;0KISSING CAT at a fx jk;0POUTING CAT at;0CRYING CAT at;0WEARY CAT at;0SLIGHTLY FROWNING at;
   1kz at;0UPSIDE-DOWN at;0at a ROLLING jk;2NO GOOD GESTURE;2OK GESTURE;0lo BOWING DEEPLY;0SEE-NO-EVIL MONKEY;
   0HEAR-NO-EVIL MONKEY;0SPEAK-NO-EVIL MONKEY;0HAPPY lo RAISING m gr;0lo RAISING BOTH HANDS IN CELEBRATION;
   1FROWNING;1a POUTING at;2FOLDED HANDS;0ei dv cy ja;0ev dv cy ja;0ei da cy ja;0ev da cy ja;0by ei dv cy ja;
   1ev dv cy ja;1ei da cy ja;1ev da cy ja;0ei dv cy VINE ja;0ev dv cy VINE ja;0ei da cy VINE ja;0ev da cy VINE ja;
   0ad ei dv cy VINE ja;1ev dv cy VINE ja;1ei da cy VINE ja;1ev da cy VINE ja;0ei dv cy BUD;0ev dv cy BUD;
   0ei da cy BUD;0ev da cy BUD;0ad ei dv cy BUD;1ev dv cy BUD;1ei da cy BUD;1ev da cy BUD;0HOLLOW QUILT au ea;
   4IN t au;0SOLID QUILT au ea;4IN t au;0am ROCKET;0bq ROCKET;0ac ROCKET;0bj ROCKET;0im gi ET ea;0ad im gi ET ea;
   0gi bw ET ea;0ad gi bw ET ea;1re ea;0SWASH re ea;0ix ad p by de ha q ea;3de ha q ea;2bn p de ha q ea;0ad vt ea;
   0ix vt ea;0ad ix vt ea;0hs ad ip;2jc ip;0CHECKER BOARD;0jc CHECKER BOARD;0ROCKET;0HELICOPTER;0STEAM LOCOMOTIVE;
   0RAILWAY CAR;0HIGH-SPEED TRAIN;2a mo NOSE;0TRAIN;0METRO;0be RAIL;0STATION;0TRAM;1CAR;0BUS;0wc BUS;0TROLLEYBUS;
   0BUS cn;0MINIBUS;0AMBULANCE;0FIRE ENGINE;0POLICE CAR;0wc POLICE CAR;0TAXI;0wc TAXI;0AUTOMOBILE;0wc AUTOMOBILE;
   0RECREATIONAL VEHICLE;0DELIVERY TRUCK;0ARTICULATED LORRY;0TRACTOR;0MONORAIL;0sb RAILWAY;0SUSPENSION RAILWAY;
   0sb CABLEWAY;0AERIAL TRAMWAY;0SHIP;0ROWBOAT;0SPEEDBOAT;0bd TRAFFIC be;0af TRAFFIC be;0ys f;
   0POLICE CARS REVOLVING be;0jh FLAG ON POST;0DOOR;0NO ENTRY f;0SMOKING z;0NO SMOKING z;
   0PUT LITTER IN ITS PLACE z;0DO di LITTER z;0POTABLE nx z;0NON-POTABLE nx z;0BICYCLE;0NO BICYCLES;0BICYCLIST;
   0sb BICYCLIST;0PEDESTRIAN;0NO PEDESTRIANS;0CHILDREN gp;0MENS z;0WOMENS z;0RESTROOM;0BABY z;0TOILET;0nx CLOSET;
   0SHOWER;0BATH;0BATHTUB;0PASSPORT qp;0CUSTOMS;0BAGGAGE CLAIM;0k LUGGAGE;0bl a qd ua;0PROHIBITED f;0ds un SOURCE;
   0BOYS z;0GIRLS z;0COUCH g LAMP;0SLEEPING ACCOMMODATION;0SHOPPING BAGS;0BELLHOP BELL;0BED;0PLACE OF WORSHIP;
   0OCTAGONAL f;0SHOPPING TROLLEY;0STUPA;0PAGODA;0HINDU TEMPLE;0HUT;0ELEVATOR;@1F6DD 0PLAYGROUND SLIDE;0WHEEL;
   0bi BUOY;0HAMMER g WRENCH;0SHIELD;0OIL DRUM;0MOTORWAY;0RAILWAY TRACK;0MOTOR BOAT;0nb MILITARY sz;1sz;1c sz;
   0c sz;0NORTHEAST-POINTING sz;0sz DEPARTURE;1ARRIVING;@1F6F0 0SATELLITE;0wc FIRE ENGINE;0DIESEL LOCOMOTIVE;
   0PASSENGER SHIP;0SCOOTER;0MOTOR SCOOTER;0CANOE;0SLED;0FLYING SAUCER;0SKATEBOARD;0AUTO RICKSHAW;0PICKUP TRUCK;
   0ROLLER SKATE;@1F700 0ALCHEMICAL z fk QUINTESSENCE;3AIR;3FIRE;3mu;3nx;3AQUAFORTIS;3AQUA REGIA;4REGIA-2;4VITAE;
   4VITAE-2;3VINEGAR;3VINEGAR-2;+1;3SULFUR;3PHILOSOPHERS SULFUR;3t SULFUR;3MERCURY wk;4SUBLIMATE-2;+1;3CINNABAR;
   3SALT;3NITRE;3VITRIOL;3VITRIOL-2;3ROCK SALT;4SALT-2;3GOLD;3SILVER;3IRON ORE;4ORE-2;3CROCUS OF IRON;
   3REGULUS OF IRON;3COPPER ORE;3IRON-COPPER ORE;3wk OF COPPER;3CROCUS OF COPPER;5COPPER-2;3COPPER ANTIMONIATE;
   3SALT OF COPPER ANTIMONIATE;3wk OF SALT OF COPPER;3VERDIGRIS;3TIN ORE;3LEAD ORE;3tw ORE;3wk OF tw;3SALT OF tw;
   3wk OF SALT OF tw;3VINEGAR OF tw;3REGULUS OF tw;5ANTIMONY-2;4;3REGULUS-2;+2;3ALKALI;3ALKALI-2;3MARCASITE;
   3SAL-AMMONIAC;3ARSENIC;3REALGAR;3REALGAR-2;3AURIPIGMENT;3BISMUTH ORE;3TARTAR;3TARTAR-2;3QUICK LIME;3BORAX;
   3BORAX-2;+1;3ALUM;3OIL;3SPIRIT;3TINCTURE;3GUM;3WAX;3POWDER;3CALX;3TUTTY;3CAPUT MORTUUM;3SCEPTER OF JOVE;
   3CADUCEUS;3TRIDENT;3STARRED TRIDENT;3LODESTONE;3SOAP;3URINE;3HORSE DUNG;3ASHES;3POT ASHES;3BRICK;
   3POWDERED BRICK;3AMALGAM;3STRATUM SUPER STRATUM;5STRATUM-2;3SUBLIMATION;3PRECIPITATE;3DISTILL;3DISSOLVE;
   3DISSOLVE-2;3PURIFY;3PUTREFACTION;3CRUCIBLE;3CRUCIBLE-2;+3;3ALEMBIC;3BATH OF MARY;5VAPOURS;3RETORT;3HOUR;3NIGHT;
   3DAY-NIGHT;3MONTH;3ap DRAM;4OUNCE;@1F780 0t jn xj i bl;1nb xj i bl;1il xj i bl;1oa xj i bl;1SLIGHTLY c av;
   0bp hd v av;0hd v av;0ad v av;0hs ad v av;0uh ad v av;0v av tc t c av;0oo TARGET;0t TINY au;1SLIGHTLY c au;
   0be v au;0bp v au;0hd v au;0ad v au;0hs ad v au;0uh ad v au;0v au tc t hs c au;4bp au;0au TARGET;0t TINY fh;
   1hs c fh;1bp c fh;0v fh tc t hs c fh;4bp fh;0fh TARGET;0t TINY nk;1hs c nk;1bp c nk;0v nk tc t c nk;0THIN if el;
   0be if el;0bp if el;0hd if el;0hs hd if el;1ad if el;0uh ad if el;0THIN pg;0be pg;0bp pg;0hd pg;0ad pg;
   0hs ad pg;0uh ad pg;0be aa kp ek;0bp aa kp ek;0hd aa kp ek;0ad aa kp ek;0hs ad aa kp ek;0uh ad aa kp ek;
   0be ag kp ek;0bp ag kp ek;0hd ag kp ek;0ad ag kp ek;0hs ad ag kp ek;0uh ad ag kp ek;0be ah kp ek;0bp ah kp ek;
   0hd ah kp ek;0ad ah kp ek;0hs ad ah kp ek;0be s fz t dk;0bp s fz t dk;0s fz t dk;0bp s fz qz dk;0be w fz t dk;
   0bp w fz t dk;0w fz t dk;0bp w fz qz dk;0jc be w fz qz dk;0be aa fz t dk;0ad aa fz t dk;0bp ag fz t dk;
   0ad ag fz t dk;0ag fz qz dk;0bp ah fz t dk;0ad ah fz t dk;0hs ad ah fz t dk;0ad ah fz qz dk;0be na fz t dk;
   0ad na fz t dk;3qz dk;0ds bl;0ln ds bl;0ds au;0ln ds au;@1F7E0 0cq ORANGE av;1YELLOW av;1GREEN av;1PURPLE av;
   1BROWN av;1RED au;1BLUE au;1ORANGE au;1YELLOW au;1GREEN au;1PURPLE au;1BROWN au;@1F7F0 0ad fy f;
   @1F800 0am h a c bl cp;0bq h a c bl cp;0ac h a c bl cp;0bj h a c bl cp;0am h a bp bl cp;0bq h a bp bl cp;
   0ac h a bp bl cp;0bj h a bp bl cp;0am h a cq bl cp;0bq h a cq bl cp;0ac h a cq bl cp;0bj h a cq bl cp;
   @1F810 0am h a c ij cp;0bq h a c ij cp;0ac h a c ij cp;0bj h a c ij cp;0am h a ij cp;0bq h a ij cp;
   0ac h a ij cp;0bj h a ij cp;0ad am h a ij cp;1bq h a ij cp;1ac h a ij cp;1bj h a ij cp;1am h a cq ij cp;
   1bq h a cq ij cp;1ac h a cq ij cp;1bj h a cq ij cp;0am co h a NARROW jd;0bq co h a NARROW jd;
   0ac co h a NARROW jd;0bj co h a NARROW jd;0am co h a bp jd;0bq co h a bp jd;0ac co h a bp jd;0bj co h a bp jd;
   0am co h a hd jd;0bq co h a hd jd;0ac co h a hd jd;0bj co h a hd jd;0am co h a ad jd;0bq co h a ad jd;
   0ac co h a ad jd;0bj co h a ad jd;0am co h a hs ad jd;0bq co h a hs ad jd;0ac co h a hs ad jd;
   0bj co h a hs ad jd;0am xb h;0bq xb h;0ac xb h;0bj xb h;0am ga h;0bq ga h;0ac ga h;0bj ga h;0am ri h;0bq ri h;
   0ac ri h;0bj ri h;0am ad ri h;0bq ad ri h;0ac ad ri h;0bj ad ri h;0am ad h;0bq ad h;0ac ad h;0bj ad h;
   @1F850 0am ix h;0bq ix h;0ac ix h;0bj ix h;0ei dv ix h;1da ix h;0ev da ix h;1dv ix h;0k i ix h;0UP an ix h;
   @1F860 0WIDE-HEADED am be bm h;1bq be bm h;1ac be bm h;1bj be bm h;1ei dv be bm h;2da be bm h;1ev da be bm h;
   2dv be bm h;1am bm h;1bq bm h;1ac bm h;1bj bm h;1ei dv bm h;2da bm h;1ev da bm h;2dv bm h;1am bp bm h;
   1bq bp bm h;1ac bp bm h;1bj bp bm h;1ei dv bp bm h;2da bp bm h;1ev da bp bm h;2dv bp bm h;1am ad bm h;
   1bq ad bm h;1ac ad bm h;1bj ad bm h;1ei dv ad bm h;2da ad bm h;1ev da ad bm h;2dv ad bm h;1am hs ad bm h;
   1bq hs ad bm h;1ac hs ad bm h;1bj hs ad bm h;1ei dv hs ad bm h;2da hs ad bm h;1ev da hs ad bm h;2dv hs ad bm h;
   @1F890 0am bl cp;0bq bl cp;0ac bl cp;0bj bl cp;0am v h WITHIN bl cp;0bq v h WITHIN bl cp;0ac v h WITHIN bl cp;
   0bj v h WITHIN bl cp;0am h a qx dr;0bq h a qx dr;0ac h a qx dr;0bj h a qx dr;0ad h jd WIDTH m;4l rc;4m ap;5nw;
   0am BOTTOM-SHADED v h;0ac gk SHADED v h;0am fa SHADED v h;0ac fa SHADED v h;0am LEFT-SHADED v h;0ac zj v h;
   0am zj v h;0ac LEFT-SHADED v h;0am BACK-TILTED ns v h;0ac BACK-TILTED ns v h;0am yv ns v h;0ac yv ns v h;
   0v h jd WIDTH m;4l rc;@1F8B0 0h cy bq THEN ei dv;2ac THEN CURVING ev dv;@1F900 0ds el FORMEE a w aw;4l aw;3;
   0k ap av a w aw;4s aw;4l aw;4r;3;0DOWNWARD FACING x;2qx x;2x a r;2qx x a r;0PINCHED ik;0v hf;0BROWN hf;
   0PINCHING gr;0ZIPPER-MOUTH at;0MONEY-MOUTH at;0at a THERMOMETER;0NERD at;0THINKING at;0at a HEAD-BANDAGE;
   0ROBOT at;0HUGGING at;0f OF fp HORNS;0CALL ME gr;0ia BACK OF gr;0xl FIST;0yd FIST;0HANDSHAKE;
   0gr a bb g ae ik nf;0I LOVE YOU gr f;0at a COWBOY HAT;0CLOWN at;0NAUSEATED at;0ROLLING ON fp pt LAUGHING;
   0DROOLING at;0LYING at;0at PALM;0SNEEZING at;0at a m EYEBROW ia;0GRINNING at a dk jk;3m cq g m c EYE;
   0at a rs COVERING fx LIPS;0SERIOUS at a SYMBOLS COVERING jl;0kz at a kz jk g gr COVERING jl;
   0at a bw jl VOMITING;0SHOCKED at a EXPLODING ju;0PREGNANT WOMAN;0BREAST-FEEDING;0PALMS UP TOGETHER;0SELFIE;
   0PRINCE;0MAN IN TUXEDO;0MOTHER CHRISTMAS;0SHRUG;0lo DOING CARTWHEEL;0JUGGLING;0FENCER;0MODERN PENTATHLON;
   0WRESTLERS;0nx POLO;0HANDBALL;0DIVING MASK;0WILTED FLOWER;0DRUM a DRUMSTICKS;0CLINKING GLASSES;0TUMBLER GLASS;
   0SPOON;0GOAL NET;0RIFLE;0FIRST PLACE MEDAL;0SECOND PLACE MEDAL;0nw PLACE MEDAL;0BOXING GLOVE;
   0MARTIAL ARTS UNIFORM;0CURLING STONE;0LACROSSE STICK g BALL;0SOFTBALL;0FLYING DISC;0CROISSANT;0AVOCADO;
   0CUCUMBER;0BACON;0POTATO;0CARROT;0BAGUETTE BREAD;0GREEN SALAD;0SHALLOW PAN OF FOOD;0STUFFED FLATBREAD;0EGG;
   0GLASS OF MILK;0PEANUTS;0KIWIFRUIT;0PANCAKES;0DUMPLING;0FORTUNE COOKIE;0TAKEOUT BOX;0CHOPSTICKS;0BOWL a SPOON;
   0CUP a STRAW;0COCONUT;0BROCCOLI;0PIE;0PRETZEL;0CUT OF MEAT;0SANDWICH;0CANNED FOOD;0LEAFY GREEN;0MANGO;0hz CAKE;
   0BAGEL;0kz at a kz jk g s kw;0YAWNING at;0kz at a TEAR;0at a PARTY gb g PARTY HAT;2UNEVEN jk g WAVY jl;
   0OVERHEATED at;0FREEZING at;0NINJA;0DISGUISED at;0at ul BACK TEARS;1a PLEADING jk;0SARI;0LAB COAT;0GOGGLES;
   0HIKING BOOT;0FLAT SHOE;0CRAB;0LION at;0SCORPION;0TURKEY;0UNICORN at;0EAGLE;0DUCK;0BAT;0SHARK;0OWL;0FOX at;
   0BUTTERFLY;0DEER;0GORILLA;0LIZARD;0RHINOCEROS;0SHRIMP;0SQUID;0GIRAFFE at;0ZEBRA at;0HEDGEHOG;0SAUROPOD;0T-REX;
   0CRICKET;0KANGAROO;0LLAMA;0PEACOCK;0HIPPOPOTAMUS;0PARROT;0RACCOON;0LOBSTER;0MOSQUITO;0MICROBE;0BADGER;0SWAN;
   0MAMMOTH;0DODO;0SLOTH;0OTTER;0ORANGUTAN;0SKUNK;0FLAMINGO;0OYSTER;0BEAVER;0BISON;0SEAL;0GUIDE DOG;0PROBING CANE;
   0EMOJI COMPONENT RED HAIR;2hw HAIR;2BALD;2v HAIR;0BONE;0LEG;0FOOT;0TOOTH;0SUPERHERO;0SUPERVILLAIN;0SAFETY VEST;
   0EAR a HEARING AID;0MOTORIZED WHEELCHAIR;0MANUAL WHEELCHAIR;0MECHANICAL ARM;1LEG;0CHEESE WEDGE;0CUPCAKE;
   0SALT SHAKER;0BEVERAGE BOX;0GARLIC;0ONION;0FALAFEL;0WAFFLE;0BUTTER;0MATE DRINK;0ICE CUBE;0qm TEA;0TROLL;
   0STANDING lo;0KNEELING lo;0DEAF lo;0at a MONOCLE;0ADULT;0CHILD;0OLDER ADULT;0BEARDED lo;0lo a HEADSCARF;
   1IN STEAMY ROOM;1CLIMBING;1IN LOTUS POSITION;0MAGE;0FAIRY;0VAMPIRE;0MERPERSON;0ELF;0GENIE;0ZOMBIE;0BRAIN;
   0ORANGE hf;0BILLED CAP;0SCARF;0GLOVES;0COAT;0SOCKS;0RED GIFT qt;0FIRECRACKER;0JIGSAW PUZZLE PIECE;0TEST TUBE;
   0PETRI iv;0DNA p HELIX;0COMPASS;0ABACUS;0FIRE EXTINGUISHER;0TOOLBOX;0BRICK;0MAGNET;0LUGGAGE;0LOTION BOTTLE;
   0SPOOL OF THREAD;0BALL OF YARN;0SAFETY PIN;0TEDDY BEAR;0BROOM;0BASKET;0ROLL OF PAPER;0ak OF SOAP;0SPONGE;
   0RECEIPT;0NAZAR AMULET;0jb gl kk;2lp;2ROOK;2ny;2ho;2PAWN;0v gl ho db FORTY-FIVE dx;0t gl ho db FORTY-FIVE dx;
   0jb gl ho db FORTY-FIVE dx;0v gl kk db fn dx;2lp db fn dx;2ROOK db fn dx;2ny db fn dx;2ho db fn dx;
   2PAWN db fn dx;0t gl kk db fn dx;2lp db fn dx;2ROOK db fn dx;2ny db fn dx;2ho db fn dx;2PAWN db fn dx;
   0jb gl kk db fn dx;2lp db fn dx;2ROOK db fn dx;2ny db fn dx;2ho db fn dx;2PAWN db fn dx;
   0v gl ho db m aq THIRTY-FIVE dx;0t gl ho db m aq THIRTY-FIVE dx;0jb gl ho db m aq THIRTY-FIVE dx;0v gl by kk;
   3lp;3ROOK;3ny;3ho;3PAWN;0t gl by kk;3lp;3ROOK;3ny;3ho;3PAWN;0jb gl by kk;3lp;3ROOK;3ny;3ho;3PAWN;
   0v gl ho db l aq yq dx;0t gl ho db l aq yq dx;0jb gl ho db l aq yq dx;0v gl kk db l aq gc dx;2lp db l aq gc dx;
   2ROOK db l aq gc dx;2ny db l aq gc dx;2ho db l aq gc dx;2PAWN db l aq gc dx;0t gl kk db l aq gc dx;
   2lp db l aq gc dx;2ROOK db l aq gc dx;2ny db l aq gc dx;2ho db l aq gc dx;2PAWN db l aq gc dx;
   0jb gl kk db l aq gc dx;2lp db l aq gc dx;2ROOK db l aq gc dx;2ny db l aq gc dx;2ho db l aq gc dx;
   2PAWN db l aq gc dx;0v gl ho db s aq pa dx;0t gl ho db s aq pa dx;0jb gl ho db s aq pa dx;0v gl ug;0t gl ug;
   0jb gl ug;0v gl ug db fn dx;0t gl ug db fn dx;0jb gl ug db fn dx;0v gl KNIGHT-QUEEN;2KNIGHT-ROOK;2KNIGHT-BISHOP;
   0t gl KNIGHT-QUEEN;2KNIGHT-ROOK;2KNIGHT-BISHOP;@1FA60 0XIANGQI RED GENERAL;2MANDARIN;2ELEPHANT;2HORSE;2CHARIOT;
   2CANNON;2SOLDIER;1t GENERAL;2MANDARIN;2ELEPHANT;2HORSE;2CHARIOT;2CANNON;2SOLDIER;@1FA70 0BALLET SHOES;
   0ONE-PIECE SWIMSUIT;0BRIEFS;0SHORTS;0THONG SANDAL;@1FA78 0DROP OF BLOOD;0ADHESIVE BANDAGE;0STETHOSCOPE;0X-RAY;
   0CRUTCH;@1FA80 0YO-YO;0KITE;0PARACHUTE;0BOOMERANG;0MAGIC WAND;0PINATA;0NESTING DOLLS;@1FA90 0RINGED PLANET;
   0CHAIR;0RAZOR;0AXE;0DIYA LAMP;0BANJO;0MILITARY HELMET;0ACCORDION;0bz DRUM;0COIN;0CARPENTRY SAW;0SCREWDRIVER;
   0LADDER;0x;0MIRROR;0WINDOW;0PLUNGER;0SEWING NEEDLE;0KNOT;0BUCKET;0MOUSE TRAP;0TOOTHBRUSH;0HEADSTONE;0PLACARD;
   0ROCK;0MIRROR BALL;0IDENTIFICATION CARD;0bn BATTERY;0HAMSA;@1FAB0 0FLY;0WORM;0BEETLE;0COCKROACH;0POTTED PLANT;
   0WOOD;0FEATHER;0LOTUS;0CORAL;0EMPTY NEST;0NEST a EGGS;@1FAC0 0ANATOMICAL hf;0LUNGS;0PEOPLE HUGGING;
   0PREGNANT MAN;1lo;0lo a CROWN;@1FAD0 0BLUEBERRIES;0BELL PEPPER;0OLIVE;0FLATBREAD;0TAMALE;0FONDUE;0TEAPOT;
   0POURING LIQUID;0BEANS;0JAR;@1FAE0 0MELTING at;0SALUTING at;0at a bw jk g gr ay jl;2PEEKING EYE;2ep jl;
   0fm cj at;0BITING LIP;0BUBBLES;@1FAF0 0gr a bb rs g cc nf;0ac gr;0am gr;0PALM an gr;1UP gr;0bb cy AT fp VIEWER;
   0hf HANDS;@1FB00 0dg SEXTANT-1;+1;1SEXTANT-12;1SEXTANT-3;1SEXTANT-13;1SEXTANT-23;1SEXTANT-123;1SEXTANT-4;
   1SEXTANT-14;1SEXTANT-24;1SEXTANT-124;1SEXTANT-34;1SEXTANT-134;1SEXTANT-234;1SEXTANT-1234;1SEXTANT-5;1SEXTANT-15;
   1SEXTANT-25;1SEXTANT-125;1SEXTANT-35;1SEXTANT-235;1SEXTANT-1235;1SEXTANT-45;1SEXTANT-145;1SEXTANT-245;
   1SEXTANT-1245;1SEXTANT-345;1SEXTANT-1345;1SEXTANT-2345;1SEXTANT-12345;1SEXTANT-6;1SEXTANT-16;1SEXTANT-26;
   1SEXTANT-126;1SEXTANT-36;1SEXTANT-136;1SEXTANT-236;1SEXTANT-1236;1SEXTANT-46;1SEXTANT-146;1SEXTANT-1246;
   1SEXTANT-346;1SEXTANT-1346;1SEXTANT-2346;1SEXTANT-12346;1SEXTANT-56;1SEXTANT-156;1SEXTANT-256;1SEXTANT-1256;
   1SEXTANT-356;1SEXTANT-1356;1SEXTANT-2356;1SEXTANT-12356;1SEXTANT-456;1SEXTANT-1456;1SEXTANT-2456;1SEXTANT-12456;
   1SEXTANT-3456;1SEXTANT-13456;1SEXTANT-23456;0bk k dg ep bk ae k TO bk dm;9i;4bv ae k TO bk dm;9i;5k TO bk dm;
   1i dg ep bv ae k TO bv dm;9i;4bk ae k TO bv dm;9i;5k TO bv dm;5ae k TO bv ae i;5dm TO bk ae i;5k TO bk ae i;
   5dm TO bv ae i;5k TO bv ae i;5dm TO bv i;1k dg ep bv dm TO bv ae i;5k TO bv ae i;5dm TO bk ae i;5k TO bk ae i;
   5dm TO bk i;5ae k TO bk ae i;0bv i dg ep bk ae k TO bk dm;9i;4bv ae k TO bk dm;9i;5k TO bk dm;
   1k dg ep bv ae k TO bv dm;9i;4bk ae k TO bv dm;9i;5k TO bv dm;5ae k TO bv ae i;5dm TO bk ae i;5k TO bk ae i;
   5dm TO bv ae i;5k TO bv ae i;5dm TO bv i;1i dg ep bv dm TO bv ae i;5k TO bv ae i;5dm TO bk ae i;5k TO bk ae i;
   5dm TO bk i;5ae k TO bk ae i;1g i g bk jh s mh dg;0k g bk g i jh s mh dg;0bv g k g bk jh s mh dg;
   0k g bv g i jh s mh dg;1jh m gj dg;0bv jh m gj dg;0i jh m gj dg;0bk jh m gj dg;0af m hu BLOCK-2;+5;
   0bd m hu BLOCK-2;+5;0k g bk m hu dg;2bv m hu dg;0i g bv m hu dg;2bk m hu dg;0bv g bk m hu dg;
   0bd m hu BLOCK-1358;0bv m gj dg;1s lw dg;1aa lw dg;1s mh dg;1ao lw dg;0i m gj dg;1s lw dg;1aa lw dg;1s mh dg;
   1ao lw dg;0k ap bp mj;0i ap bp mj;0bv ap bp mj;0bk ap bp mj;0pv bp mj;0bv ap dg g bk ap pv bp mj;
   2pv bp mj g bk ap dg;@1FB94 0k ap pv bp mj g i ap dg;0CHECKER BOARD mv;0pv CHECKER BOARD mv;0ad bd mv;
   0bv k TO bk i mv;1i TO bk k mv;1g bk jh ap dg;0k g i jh ap dg;0bv k jh bp mj;1i jh bp mj;0bk i jh bp mj;
   1k jh bp mj;0BOX DRAWINGS be ep bv dm TO ae k;8i;4ae k TO bk dm;5i TO bk dm;4bv dm TO ae k TO bk dm;8i TO bk dm;
   4ae k TO bk dm TO ae i;7bv dm TO ae i;4bv dm TO ae k g ae i TO bk dm;8i g ae k TO bk dm;9TO bk dm TO ae k;
   8k TO bk dm TO ae i;4ae k TO bv dm TO ae i TO bk dm;5i TO bv dm TO ae k TO bk dm;4fh;3bd a af y;
   0ARROWHEAD-SHAPED POINTER;0pv nz q;0k ap RUNNING MAN;0i ap RUNNING MAN;0pv bj h a TIP am;
   0am h g bv g bk m hu dg;0ac h g bv g bk m hu dg;0bj h g i m hu dg;0bq h g i m hu dg;0k ap tg;0i ap tg;
   0VOIDED if el;0i bw ga r;0ln ep el;2ae i TO bk dm;2fh;0v ad pg a qd ua;0k nw v i cy bb;0ae nw v i cy bb;
   0i nw v i cy bb;0ln ga hj q;0STICK FIGURE;2a ARMS ia;2LEANING k;3i;2a DRESS;0v nb CHEVRON;
   @1FBF0 0SEGMENTED bh bt;2m;2l;2s;2w;2aa;2ag;2ao;2ah;2ar;@E0001 0LANGUAGE TAG;@E0020 0TAG jf;1hy q;1ha q;1cz f;
   1td f;1PERCENT f;1re;1qk;1k ex;1i ex;1ek;1al f;1de;1xg;1eb cn;1ip;1bh bt;2m;2l;2s;2w;2aa;2ag;2ao;2ah;2ar;1gm;
   1oq;1dh f;1fy f;1dj f;1hj q;1vk AT;1dz e b A;4B;4C;4D;4E;4F;4G;4H;4I;4J;4K;4L;4M;4N;4O;4P;4Q;4R;4S;4T;4U;4V;4W;
   4X;4Y;4Z;1k au as;1jc ip;1i au as;1cb fi;1bn cj;1cr fi;1dz c b A;4B;4C;4D;4E;4F;4G;4H;4I;4J;4K;4L;4M;4N;4O;4P;
   4Q;4R;4S;4T;4U;4V;4W;4X;4Y;4Z;1k hw as;1af cj;1i hw as;1bg;0CANCEL TAG;@E0100 0wn SELECTOR-17;+239"

end CommonExpr.Text.Name
