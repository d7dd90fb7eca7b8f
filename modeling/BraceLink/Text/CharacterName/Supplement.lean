/-!
# Names of characters: the supplementary planes

A line holds the code point of its first character, what the names on it begin with, and after a colon how
the names of the characters go on, in order.
-/

namespace BraceLink.Text

/-- The names of the characters above U+FFFF. -/
def supplementNames : String := "
  10000 LINEAR B SYLLABLE :B008 A;B038 E;B028 I;B061 O;B010 U;B001 DA;B045 DE;B007 DI;B014 DO;B051 DU;B057 JA;B046 JE
  1000D LINEAR B SYLLABLE :B036 JO;B065 JU;B077 KA;B044 KE
  10011 LINEAR B SYLLABLE :B067 KI;B070 KO;B081 KU;B080 MA;B013 ME;B073 MI;B015 MO;B023 MU;B006 NA;B024 NE;B030 NI
  1001C LINEAR B SYLLABLE :B052 NO;B055 NU;B003 PA;B072 PE;B039 PI;B011 PO;B050 PU;B016 QA;B078 QE;B021 QI;B032 QO
  10028 LINEAR B SYLLABLE :B060 RA;B027 RE;B053 RI;B002 RO;B026 RU;B031 SA;B009 SE;B041 SI
  10030 LINEAR B SYLLABLE :B012 SO;B058 SU;B059 TA;B004 TE;B037 TI;B005 TO;B069 TU;B054 WA;B075 WE;B040 WI;B042 WO
  1003C LINEAR B SYLLABLE :B017 ZA;B074 ZE
  1003F LINEAR B SYLLABLE :B020 ZO;B025 A2;B043 A3;B085 AU;B071 DWE
  10044 LINEAR B SYLLABLE :B090 DWO;B048 NWA;B029 PU2;B062 PTE;B076 RA2;B033 RA3;B068 RO2;B066 TA2;B087 TWE;B091 TWO
  10050 LINEAR B SYMBOL :B018;B019;B022;B034;B047;B049;B056;B063;B064;B079;B082;B083;B086;B089
  10080 LINEAR B IDEOGRAM :B100 MAN;B102 WOMAN;B104 DEER;B105 EQUID
  10084 LINEAR B IDEOGRAM :B105F MARE;B105M STALLION;B106F EWE;B106M RAM;B107F SHE-GOAT;B107M HE-GOAT;B108F SOW
  1008B LINEAR B IDEOGRAM :B108M BOAR;B109F COW;B109M BULL;B120 WHEAT;B121 BARLEY;B122 OLIVE;B123 SPICE;B125 CYPERUS
  10093 LINEAR B MONOGRAM :B127 KAPO;B128 KANAKO
  10095 LINEAR B IDEOGRAM :B130 OIL;B131 WINE;B132
  10098 LINEAR B MONOGRAM :B133 AREPA;B135 MERI
  1009A LINEAR B IDEOGRAM :B140 BRONZE;B141 GOLD;B142;B145 WOOL;B146;B150;B151 HORN;B152;B153;B154
  100A4 :LINEAR B MONOGRAM B156 TURO2
  100A5 LINEAR B IDEOGRAM :B157;B158;B159 CLOTH;B160;B161;B162 GARMENT;B163 ARMOUR;B164;B165;B166;B167;B168
  100B1 LINEAR B IDEOGRAM :B169;B170;B171;B172;B173 MONTH;B174;B176 TREE;B177;B178;B179;B180;B181;B182;B183;B184;B185
  100C1 LINEAR B IDEOGRAM :B189;B190;B191 HELMET;B220 FOOTSTOOL;B225 BATHTUB;B230 SPEAR;B231 ARROW;B232;B233 SWORD
  100CA LINEAR B IDEOGRAM :B234;B236;B240 WHEELED CHARIOT;B241 CHARIOT;B242 CHARIOT FRAME;B243 WHEEL;B245;B246
  100D2 :LINEAR B MONOGRAM B247 DIPTE
  100D3 LINEAR B IDEOGRAM :B248;B249;B251;B252;B253;B254 DART;B255;B256;B257;B258;B259
  100DE LINEAR B IDEOGRAM VESSEL :B155;B200;B201;B202;B203;B204;B205;B206;B207;B208;B209;B210
  100EA LINEAR B IDEOGRAM VESSEL :B211;B212;B213;B214;B215;B216;B217;B218;B219;B221;B222;B226;B227;B228;B229;B250;B305
  10100 AEGEAN :WORD SEPARATOR LINE;WORD SEPARATOR DOT;CHECK MARK
  10107 AEGEAN NUMBER :ONE;TWO;THREE;FOUR
  1010B AEGEAN NUMBER :FIVE;SIX;SEVEN;EIGHT;NINE;TEN;TWENTY;THIRTY;FORTY;FIFTY;SIXTY;SEVENTY;EIGHTY;NINETY;ONE HUNDRED
  1011A AEGEAN NUMBER :TWO HUNDRED;THREE HUNDRED;FOUR HUNDRED;FIVE HUNDRED;SIX HUNDRED;SEVEN HUNDRED;EIGHT HUNDRED
  10121 AEGEAN NUMBER :NINE HUNDRED;ONE THOUSAND;TWO THOUSAND;THREE THOUSAND;FOUR THOUSAND;FIVE THOUSAND;SIX THOUSAND
  10128 AEGEAN NUMBER :SEVEN THOUSAND;EIGHT THOUSAND;NINE THOUSAND;TEN THOUSAND;TWENTY THOUSAND;THIRTY THOUSAND
  1012E AEGEAN NUMBER :FORTY THOUSAND;FIFTY THOUSAND;SIXTY THOUSAND;SEVENTY THOUSAND;EIGHTY THOUSAND;NINETY THOUSAND
  10137 AEGEAN WEIGHT :BASE UNIT;FIRST SUBUNIT;SECOND SUBUNIT;THIRD SUBUNIT;FOURTH SUBUNIT
  1013C AEGEAN :DRY MEASURE FIRST SUBUNIT;LIQUID MEASURE FIRST SUBUNIT;MEASURE SECOND SUBUNIT;MEASURE THIRD SUBUNIT
  10140 GREEK ACROPHONIC ATTIC :ONE QUARTER;ONE HALF;ONE DRACHMA;FIVE;FIFTY;FIVE HUNDRED;FIVE THOUSAND;FIFTY THOUSAND
  10148 GREEK ACROPHONIC ATTIC :FIVE TALENTS;TEN TALENTS;FIFTY TALENTS;ONE HUNDRED TALENTS;FIVE HUNDRED TALENTS
  1014D GREEK ACROPHONIC ATTIC :ONE THOUSAND TALENTS;FIVE THOUSAND TALENTS;FIVE STATERS;TEN STATERS;FIFTY STATERS
  10152 GREEK ACROPHONIC ATTIC :ONE HUNDRED STATERS;FIVE HUNDRED STATERS;ONE THOUSAND STATERS;TEN THOUSAND STATERS
  10156 GREEK ACROPHONIC :ATTIC FIFTY THOUSAND STATERS;ATTIC TEN MNAS;HERAEUM ONE PLETHRON;THESPIAN ONE;HERMIONIAN ONE
  1015B GREEK ACROPHONIC :EPIDAUREAN TWO;THESPIAN TWO;CYRENAIC TWO DRACHMAS;EPIDAUREAN TWO DRACHMAS;TROEZENIAN FIVE
  10160 GREEK ACROPHONIC :TROEZENIAN TEN;TROEZENIAN TEN ALTERNATE FORM;HERMIONIAN TEN;MESSENIAN TEN;THESPIAN TEN
  10165 GREEK ACROPHONIC :THESPIAN THIRTY;TROEZENIAN FIFTY;TROEZENIAN FIFTY ALTERNATE FORM;HERMIONIAN FIFTY
  10169 GREEK ACROPHONIC THESPIAN :FIFTY;ONE HUNDRED;THREE HUNDRED
  1016C GREEK ACROPHONIC :EPIDAUREAN FIVE HUNDRED;TROEZENIAN FIVE HUNDRED;THESPIAN FIVE HUNDRED;CARYSTIAN FIVE HUNDRED
  10170 GREEK ACROPHONIC :NAXIAN FIVE HUNDRED;THESPIAN ONE THOUSAND;THESPIAN FIVE THOUSAND;DELPHIC FIVE MNAS
  10174 GREEK :ACROPHONIC STRATIAN FIFTY MNAS;ONE HALF SIGN;ONE HALF SIGN ALTERNATE FORM;TWO THIRDS SIGN
  10178 GREEK :THREE QUARTERS SIGN;YEAR SIGN;TALENT SIGN;DRACHMA SIGN;OBOL SIGN;TWO OBOLS SIGN;THREE OBOLS SIGN
  1017F GREEK :FOUR OBOLS SIGN;FIVE OBOLS SIGN;METRETES SIGN;KYATHOS BASE SIGN;LITRA SIGN;OUNKIA SIGN;XESTES SIGN
  10186 GREEK :ARTABE SIGN;AROURA SIGN;GRAMMA SIGN;TRYBLION BASE SIGN;ZERO SIGN;ONE QUARTER SIGN;SINUSOID SIGN
  1018D :GREEK INDICTION SIGN;NOMISMA SIGN
  10190 ROMAN :SEXTANS SIGN;UNCIA SIGN;SEMUNCIA SIGN;SEXTULA SIGN;DIMIDIA SEXTULA SIGN
  10195 ROMAN :SILIQUA SIGN;DENARIUS SIGN;QUINARIUS SIGN;SESTERTIUS SIGN;DUPONDIUS SIGN;AS SIGN;CENTURIAL SIGN
  1019C :ASCIA SYMBOL
  101A0 :GREEK SYMBOL TAU RHO
  101D0 PHAISTOS DISC SIGN :PEDESTRIAN;PLUMED HEAD;TATTOOED HEAD;CAPTIVE;CHILD;WOMAN;HELMET;GAUNTLET;TIARA;ARROW;BOW
  101DB PHAISTOS DISC SIGN :SHIELD;CLUB;MANACLES;MATTOCK;SAW;LID;BOOMERANG;CARPENTRY PLANE;DOLIUM;COMB;SLING;COLUMN
  101E7 PHAISTOS DISC SIGN :BEEHIVE;SHIP;HORN;HIDE;BULLS LEG;CAT;RAM;EAGLE;DOVE;TUNNY;BEE;PLANE TREE;VINE;PAPYRUS
  101F5 PHAISTOS DISC SIGN :ROSETTE;LILY;OX BACK;FLUTE;GRATER;STRAINER;SMALL AXE;WAVY BAND;COMBINING OBLIQUE STROKE
  10280 LYCIAN LETTER :A;E;B;BH;G;D;I;W;Z;TH;J;K;Q;L;M;N;MM;NN;U;P;KK;R;S;T;TT;AN;EN;H;X
  102A0 CARIAN LETTER :A;P2;D;L;UUU;R;LD;A2;Q;B;M;O;D2;T;SH;SH2;S;C-18;U;NN
  102B4 CARIAN LETTER :X;N;TT2;P;SS;I;E;UUUU;K;K2;ND;UU;G;G2;ST;ST2;NG;II;C-39;TT;UUU2;RR;MB;MB2;MB3;MB4;LD2;E2;UUU3
  102E0 :COPTIC EPACT THOUSANDS MARK
  102E1 COPTIC EPACT DIGIT :ONE;TWO;THREE;FOUR;FIVE;SIX;SEVEN;EIGHT;NINE
  102EA COPTIC EPACT NUMBER :TEN;TWENTY
  102EC COPTIC EPACT NUMBER :THIRTY;FORTY;FIFTY;SIXTY;SEVENTY;EIGHTY;NINETY;ONE HUNDRED;TWO HUNDRED;THREE HUNDRED
  102F6 COPTIC EPACT NUMBER :FOUR HUNDRED;FIVE HUNDRED;SIX HUNDRED;SEVEN HUNDRED;EIGHT HUNDRED;NINE HUNDRED
  10300 OLD ITALIC LETTER :A;BE;KE
  10303 OLD ITALIC LETTER :DE;E;VE;ZE;HE;THE;I;KA;EL;EM;EN;ESH;O;PE;SHE;KU;ER;ES;TE;U;EKS;PHE;KHE;EF;ERS;CHE;II;UU;ESS
  10320 OLD ITALIC NUMERAL :ONE;FIVE;TEN;FIFTY
  1032D OLD ITALIC LETTER :YE;NORTHERN TSE;SOUTHERN TSE
  10330 GOTHIC LETTER :AHSA;BAIRKAN;GIBA;DAGS;AIHVUS;QAIRTHRA;IUJA;HAGL;THIUTH;EIS;KUSMA;LAGUS;MANNA
  1033D GOTHIC LETTER :NAUTHS;JER;URUS;PAIRTHRA;NINETY;RAIDA;SAUIL;TEIWS;WINJA;FAIHU;IGGWS;HWAIR;OTHAL;NINE HUNDRED
  10350 OLD PERMIC LETTER :AN;BUR;GAI;DOI;E;ZHOI;DZHOI;ZATA;DZITA;I;KOKE;LEI;MENOE;NENOE;VOOI;PEEI
  10360 OLD PERMIC LETTER :REI;SII;TAI;U;CHERY;SHOOI;SHCHOOI;YRY;YERU;O;OO;EF;HA;TSIU;VER;YER;YERI;YAT;IE;YU;YA;IA
  10376 COMBINING OLD PERMIC LETTER :AN;DOI;ZATA;NENOE;SII
  10380 UGARITIC LETTER :ALPA;BETA;GAMLA;KHA;DELTA;HO;WO;ZETA;HOTA
  10389 UGARITIC LETTER :TET;YOD;KAF;SHIN;LAMDA;MEM;DHAL;NUN;ZU;SAMKA;AIN;PU;SADE;QOPA;RASHA;THANNA;GHAIN;TO;I;U;SSU
  1039F :UGARITIC WORD DIVIDER
  103A0 OLD PERSIAN SIGN :A;I;U;KA;KU;GA
  103A6 OLD PERSIAN SIGN :GU;XA;CA;JA;JI;TA;TU;DA;DI;DU;THA;PA;BA;FA;NA;NU;MA;MI;MU;YA;VA;VI;RA;RU;LA;SA;ZA;SHA;SSA;HA
  103C8 OLD PERSIAN SIGN :AURAMAZDAA;AURAMAZDAA-2;AURAMAZDAAHA;XSHAAYATHIYA;DAHYAAUSH;DAHYAAUSH-2;BAGA;BUUMISH
  103D0 :OLD PERSIAN WORD DIVIDER
  103D1 OLD PERSIAN NUMBER :ONE;TWO;TEN;TWENTY;HUNDRED
  10400 DESERET CAPITAL LETTER LONG :I;E;A;AH;O;OO
  10406 DESERET CAPITAL LETTER :SHORT I;SHORT E;SHORT A;SHORT AH;SHORT O;SHORT OO;AY;OW;WU;YEE;H
  10411 DESERET CAPITAL LETTER :PEE;BEE;TEE;DEE;CHEE;JEE;KAY;GAY;EF;VEE;ETH;THEE;ES;ZEE;ESH;ZHEE;ER;EL;EM;EN;ENG;OI;EW
  10428 DESERET SMALL LETTER LONG :I;E;A;AH;O;OO
  1042E DESERET SMALL LETTER SHORT :I;E;A;AH;O;OO
  10434 DESERET SMALL LETTER :AY;OW;WU;YEE
  10438 DESERET SMALL LETTER :H;PEE;BEE;TEE;DEE;CHEE;JEE;KAY;GAY;EF;VEE;ETH;THEE;ES;ZEE;ESH;ZHEE;ER;EL;EM;EN;ENG;OI;EW
  10450 SHAVIAN LETTER :PEEP;TOT;KICK;FEE;THIGH
  10455 SHAVIAN LETTER :SO;SURE;CHURCH;YEA;HUNG;BIB;DEAD;GAG;VOW;THEY;ZOO;MEASURE;JUDGE;WOE;HA-HA;LOLL;MIME;IF;EGG;ASH
  10469 SHAVIAN LETTER :ADO;ON;WOOL;OUT;AH;ROAR;NUN;EAT;AGE;ICE;UP;OAK;OOZE;OIL;AWE;ARE;OR;AIR;ERR;ARRAY;EAR;IAN;YEW
  10480 OSMANYA LETTER :ALEF;BA;TA;JA
  10484 OSMANYA LETTER :XA;KHA;DEEL;RA;SA;SHIIN;DHA;CAYN;GA;FA;QAAF;KAAF;LAAN;MIIN;NUUN;WAW;HA;YA;A;E;I;O;U;AA;EE;OO
  104A0 OSMANYA DIGIT :ZERO;ONE;TWO;THREE;FOUR;FIVE;SIX;SEVEN;EIGHT;NINE
  104B0 OSAGE CAPITAL LETTER :A;AI;AIN;AH;BRA;CHA;EHCHA;E;EIN;HA;HYA;I
  104BC OSAGE CAPITAL LETTER :KA;EHKA;KYA;LA;MA;NA;O;OIN;PA;EHPA;SA;SHA;TA;EHTA;TSA;EHTSA;TSHA;DHA;U;WA;KHA;GHA;ZA;ZHA
  104D8 OSAGE SMALL LETTER :A;AI;AIN;AH;BRA;CHA;EHCHA;E;EIN;HA;HYA
  104E3 OSAGE SMALL LETTER :I;KA;EHKA;KYA;LA;MA;NA;O;OIN;PA;EHPA;SA;SHA;TA;EHTA;TSA;EHTSA;TSHA;DHA;U;WA;KHA;GHA;ZA;ZHA
  10500 ELBASAN LETTER :A;BE;CE;CHE;DE;NDE;DHE;EI;E;FE;GE;GJE
  1050C ELBASAN LETTER :HE;I;JE;KE;LE;LLE;ME;NE;NA;NJE;O;PE;QE;RE;RRE;SE;SHE;TE;THE;U;VE;XE;Y;ZE;ZHE;GHE;GHAMMA;KHE
  10530 CAUCASIAN ALBANIAN LETTER :ALT;BET;GIM;DAT;EB;ZARL;EYN;ZHIL;TAS;CHA;YOWD;ZHA;IRB;SHA;LAN;INYA
  10540 CAUCASIAN ALBANIAN LETTER :XEYN;DYAN;CAR;JHOX;KAR;LYIT;HEYT;QAY;AOR;CHOY;CHI;CYAY;MAQ;QAR;NOWC;DZYAY;SHAK;JAYN
  10552 CAUCASIAN ALBANIAN LETTER :ON;TYAY;FAM;DZAY;CHAT;PEN;GHEYS;RAT;SEYK;VEYZ;TIWR;SHOY;IWN;CYAW;CAYN;YAYD;PIWR;KIW
  1056F :CAUCASIAN ALBANIAN CITATION MARK
  10570 VITHKUQI CAPITAL LETTER :A;BBE;BE;CE;CHE;DE;DHE;EI;E;FE;GA
  1057C VITHKUQI CAPITAL LETTER :HA;HHA;I;IJE;JE;KA;LA;LLA;ME;NE;NJE;O;PE;QA;RE
  1058C VITHKUQI CAPITAL LETTER :SE;SHE;TE;THE;U;VE;XE
  10594 VITHKUQI CAPITAL LETTER :Y;ZE
  10597 VITHKUQI SMALL LETTER :A;BBE;BE;CE;CHE;DE;DHE;EI;E;FE;GA
  105A3 VITHKUQI SMALL LETTER :HA;HHA;I;IJE;JE;KA;LA;LLA;ME;NE;NJE;O;PE;QA;RE
  105B3 VITHKUQI SMALL LETTER :SE;SHE;TE;THE;U;VE;XE
  105BB VITHKUQI SMALL LETTER :Y;ZE
  10600 LINEAR A SIGN :AB001;AB002;AB003;AB004;AB005;AB006;AB007
  10607 LINEAR A SIGN :AB008;AB009;AB010;AB011;AB013;AB016;AB017;AB020;AB021;AB021F;AB021M;AB022;AB022F;AB022M;AB023
  10616 LINEAR A SIGN :AB023M;AB024;AB026;AB027;AB028;A028B;AB029;AB030;AB031;AB034;AB037;AB038;AB039;AB040;AB041
  10625 LINEAR A SIGN :AB044;AB045;AB046;AB047;AB048;AB049;AB050;AB051;AB053;AB054;AB055;AB056;AB057;AB058;AB059;AB060
  10635 LINEAR A SIGN :AB061;AB065;AB066;AB067;AB069;AB070;AB073;AB074;AB076;AB077;AB078;AB079;AB080;AB081;AB082;AB085
  10645 LINEAR A SIGN :AB086;AB087;A100-102;AB118;AB120;A120B;AB122;AB123;AB131A;AB131B;A131C;AB164;AB171;AB180;AB188
  10654 LINEAR A SIGN :AB191;A301;A302;A303;A304;A305;A306;A307;A308;A309A;A309B;A309C;A310;A311;A312;A313A;A313B
  10665 LINEAR A SIGN :A313C;A314;A315;A316;A317;A318;A319;A320;A321;A322;A323;A324;A325;A326;A327;A328;A329;A330
  10677 LINEAR A SIGN :A331;A332;A333;A334;A335;A336;A337;A338;A339;A340;A341;A342;A343;A344;A345;A346;A347;A348;A349
  1068A LINEAR A SIGN :A350;A351;A352;A353;A354;A355;A356;A357;A358;A359;A360;A361;A362;A363;A364;A365;A366;A367;A368
  1069D LINEAR A SIGN :A369;A370;A371;A400-VAS;A401-VAS;A402-VAS;A403-VAS;A404-VAS;A405-VAS;A406-VAS;A407-VAS;A408-VAS
  106A9 LINEAR A SIGN :A409-VAS;A410-VAS;A411-VAS;A412-VAS;A413-VAS;A414-VAS;A415-VAS;A416-VAS;A417-VAS;A418-VAS
  106B3 LINEAR A SIGN :A501;A502;A503;A504;A505;A506;A508;A509;A510;A511;A512;A513;A515;A516;A520;A521;A523;A524
  106C5 LINEAR A SIGN :A525;A526;A527;A528;A529;A530;A531;A532;A534;A535;A536;A537;A538;A539;A540;A541;A542;A545;A547
  106D8 LINEAR A SIGN :A548;A549;A550;A551;A552;A553;A554;A555;A556;A557;A559;A563;A564;A565;A566;A568;A569;A570;A571
  106EB LINEAR A SIGN :A572;A573;A574;A575;A576;A577;A578;A579;A580;A581;A582;A583;A584;A585;A586;A587;A588;A589;A591
  106FE LINEAR A SIGN :A592;A594;A595;A596;A598;A600;A601;A602;A603;A604;A606;A608;A609;A610;A611;A612;A613;A614;A615
  10711 LINEAR A SIGN :A616;A617;A618;A619;A620;A621;A622;A623;A624;A626;A627;A628;A629;A634;A637;A638;A640;A642;A643
  10724 LINEAR A SIGN :A644;A645;A646;A648;A649;A651;A652;A653;A654;A655;A656;A657;A658;A659;A660;A661;A662;A663;A664
  10740 LINEAR A SIGN :A701 A;A702 B;A703 D;A704 E;A705 F;A706 H;A707 J;A708 K;A709 L;A709-2 L2;A709-3 L3
  1074B LINEAR A SIGN :A709-4 L4;A709-6 L6;A710 W;A711 X;A712 Y;A713 OMEGA;A714 ABB;A715 BB;A717 DD;A726 EYYY;A732 JE
  10760 LINEAR A SIGN :A800;A801;A802;A803;A804;A805;A806;A807
  10780 MODIFIER LETTER :SMALL CAPITAL AA;SUPERSCRIPT TRIANGULAR COLON;SUPERSCRIPT HALF TRIANGULAR COLON
  10783 MODIFIER LETTER SMALL :AE;CAPITAL B;B WITH HOOK
  10787 MODIFIER LETTER SMALL :DZ DIGRAPH;DZ DIGRAPH WITH RETROFLEX HOOK;DZ DIGRAPH WITH CURL;DEZH DIGRAPH;D WITH TAIL
  1078C MODIFIER LETTER SMALL :D WITH HOOK;D WITH HOOK AND TAIL;REVERSED E;CLOSED REVERSED OPEN E;FENG DIGRAPH
  10791 MODIFIER LETTER SMALL :RAMS HORN;CAPITAL G;G WITH HOOK;CAPITAL G WITH HOOK;H WITH STROKE;CAPITAL H
  10797 MODIFIER LETTER SMALL :HENG WITH HOOK;DOTLESS J WITH STROKE AND HOOK;LS DIGRAPH;LZ DIGRAPH;L WITH BELT
  1079C MODIFIER LETTER SMALL :CAPITAL L WITH BELT;L WITH RETROFLEX HOOK AND BELT;LEZH;LEZH WITH RETROFLEX HOOK
  107A0 MODIFIER LETTER SMALL :TURNED Y;TURNED Y WITH BELT;O WITH STROKE;CAPITAL OE;CLOSED OMEGA;Q
  107A6 MODIFIER LETTER SMALL TURNED R WITH LONG :LEG;LEG AND RETROFLEX HOOK
  107A8 MODIFIER LETTER SMALL :R WITH TAIL;R WITH FISHHOOK;CAPITAL R;TC DIGRAPH WITH CURL;TS DIGRAPH
  107AD MODIFIER LETTER SMALL :TS DIGRAPH WITH RETROFLEX HOOK;TESH DIGRAPH;T WITH RETROFLEX HOOK;V WITH RIGHT HOOK
  107B2 :MODIFIER LETTER SMALL CAPITAL Y
  107B3 MODIFIER LETTER :GLOTTAL STOP WITH STROKE;REVERSED GLOTTAL STOP WITH STROKE;BILABIAL CLICK;DENTAL CLICK
  107B7 MODIFIER LETTER :LATERAL CLICK;ALVEOLAR CLICK;RETROFLEX CLICK WITH RETROFLEX HOOK;SMALL S WITH CURL
  10800 CYPRIOT SYLLABLE :A;E;I;O;U;JA
  10808 :CYPRIOT SYLLABLE JO
  1080A CYPRIOT SYLLABLE :KA;KE;KI;KO;KU;LA;LE;LI;LO;LU;MA;ME;MI
  10817 CYPRIOT SYLLABLE :MO;MU;NA;NE;NI;NO;NU;PA;PE;PI;PO;PU;RA;RE;RI;RO;RU;SA;SE;SI;SO;SU;TA;TE;TI;TO;TU;WA;WE;WI;WO
  10837 CYPRIOT SYLLABLE :XA;XE
  1083C :CYPRIOT SYLLABLE ZA
  1083F :CYPRIOT SYLLABLE ZO
  10840 IMPERIAL ARAMAIC LETTER :ALEPH;BETH;GIMEL;DALETH;HE
  10845 IMPERIAL ARAMAIC LETTER :WAW;ZAYIN;HETH;TETH;YODH;KAPH;LAMEDH;MEM;NUN;SAMEKH;AYIN;PE;SADHE;QOPH;RESH;SHIN;TAW
  10857 :IMPERIAL ARAMAIC SECTION SIGN
  10858 IMPERIAL ARAMAIC NUMBER :ONE;TWO;THREE;TEN;TWENTY;ONE HUNDRED;ONE THOUSAND;TEN THOUSAND
  10860 PALMYRENE LETTER :ALEPH;BETH;GIMEL;DALETH;HE;WAW
  10866 PALMYRENE LETTER :ZAYIN;HETH;TETH;YODH;KAPH;LAMEDH;MEM;FINAL NUN;NUN;SAMEKH;AYIN;PE;SADHE;QOPH;RESH;SHIN;TAW
  10877 PALMYRENE :LEFT-POINTING FLEURON;RIGHT-POINTING FLEURON
  10879 PALMYRENE NUMBER :ONE;TWO;THREE;FOUR;FIVE;TEN;TWENTY
  10880 NABATAEAN LETTER :FINAL ALEPH;ALEPH;FINAL BETH;BETH
  10884 NABATAEAN LETTER :GIMEL;DALETH;FINAL HE;HE;WAW;ZAYIN;HETH;TETH;FINAL YODH;YODH;FINAL KAPH;KAPH;FINAL LAMEDH
  10891 NABATAEAN LETTER :LAMEDH;FINAL MEM;MEM;FINAL NUN;NUN;SAMEKH;AYIN;PE;SADHE;QOPH;RESH;FINAL SHIN;SHIN;TAW
  108A7 NABATAEAN NUMBER :ONE;TWO;THREE;FOUR
  108AB :NABATAEAN CRUCIFORM NUMBER FOUR
  108AC NABATAEAN NUMBER :FIVE;TEN;TWENTY;ONE HUNDRED
  108E0 :HATRAN LETTER ALEPH
  108E1 HATRAN LETTER :BETH;GIMEL;DALETH-RESH;HE;WAW;ZAYN;HETH;TETH;YODH;KAPH;LAMEDH;MEM;NUN;SAMEKH;AYN;PE;SADHE;QOPH
  108F4 HATRAN LETTER :SHIN;TAW
  108FB HATRAN NUMBER :ONE;FIVE;TEN;TWENTY;ONE HUNDRED
  10900 :PHOENICIAN LETTER ALF
  10901 PHOENICIAN LETTER :BET;GAML;DELT;HE;WAU;ZAI;HET;TET;YOD;KAF;LAMD;MEM;NUN;SEMK;AIN;PE;SADE;QOF;ROSH;SHIN;TAU
  10916 PHOENICIAN NUMBER :ONE;TEN;TWENTY;ONE HUNDRED;TWO;THREE
  1091F :PHOENICIAN WORD SEPARATOR
  10920 LYDIAN LETTER :A;B;G;D;E;V;I;Y;K;L;M;N;O;R;SS;T;U;F;Q;S;TT;AN;EN;LY;NN;C
  1093F :LYDIAN TRIANGULAR MARK
  10980 MEROITIC HIEROGLYPHIC LETTER :A;E;I;O;YA;WA;BA;BA-2
  10988 MEROITIC HIEROGLYPHIC LETTER :PA;MA;NA;NA-2;NE;NE-2;RA;RA-2;LA;KHA;HHA;SA;SA-2;SE;KA;QA;TA;TA-2;TE;TE-2;TO;DA
  1099E MEROITIC HIEROGLYPHIC SYMBOL :VIDJ;VIDJ-2
  109A0 MEROITIC CURSIVE LETTER :A;E;I;O;YA;WA;BA;PA;MA;NA;NE;RA;LA;KHA;HHA;SA;ARCHAIC SA;SE;KA;QA;TA;TE;TO;DA
  109BC MEROITIC CURSIVE :FRACTION ELEVEN TWELFTHS;FRACTION ONE HALF;LOGOGRAM RMT;LOGOGRAM IMN;NUMBER ONE
  109C1 MEROITIC CURSIVE NUMBER :TWO;THREE;FOUR;FIVE;SIX;SEVEN;EIGHT;NINE;TEN;TWENTY;THIRTY;FORTY;FIFTY;SIXTY;SEVENTY
  109D2 MEROITIC CURSIVE NUMBER :ONE HUNDRED;TWO HUNDRED;THREE HUNDRED;FOUR HUNDRED
  109D6 MEROITIC CURSIVE NUMBER :FIVE HUNDRED;SIX HUNDRED;SEVEN HUNDRED;EIGHT HUNDRED;NINE HUNDRED;ONE THOUSAND
  109DC MEROITIC CURSIVE NUMBER :TWO THOUSAND;THREE THOUSAND;FOUR THOUSAND;FIVE THOUSAND;SIX THOUSAND;SEVEN THOUSAND
  109E2 MEROITIC CURSIVE NUMBER :EIGHT THOUSAND;NINE THOUSAND;TEN THOUSAND;TWENTY THOUSAND;THIRTY THOUSAND
  109E7 MEROITIC CURSIVE NUMBER :FORTY THOUSAND;FIFTY THOUSAND;SIXTY THOUSAND;SEVENTY THOUSAND;EIGHTY THOUSAND
  109EC MEROITIC CURSIVE NUMBER :NINETY THOUSAND;ONE HUNDRED THOUSAND;TWO HUNDRED THOUSAND;THREE HUNDRED THOUSAND
  109F0 MEROITIC CURSIVE NUMBER :FOUR HUNDRED THOUSAND;FIVE HUNDRED THOUSAND;SIX HUNDRED THOUSAND
  109F3 MEROITIC CURSIVE NUMBER :SEVEN HUNDRED THOUSAND;EIGHT HUNDRED THOUSAND;NINE HUNDRED THOUSAND
  109F6 MEROITIC CURSIVE FRACTION :ONE TWELFTH;TWO TWELFTHS;THREE TWELFTHS;FOUR TWELFTHS
  109FA MEROITIC CURSIVE FRACTION :FIVE TWELFTHS;SIX TWELFTHS;SEVEN TWELFTHS;EIGHT TWELFTHS;NINE TWELFTHS;TEN TWELFTHS
  10A00 :KHAROSHTHI LETTER A
  10A01 KHAROSHTHI VOWEL SIGN :I;U;VOCALIC R
  10A05 KHAROSHTHI VOWEL SIGN :E;O
  10A0C KHAROSHTHI :VOWEL LENGTH MARK;SIGN DOUBLE RING BELOW;SIGN ANUSVARA;SIGN VISARGA
  10A10 KHAROSHTHI LETTER :KA;KHA;GA;GHA
  10A15 KHAROSHTHI LETTER :CA;CHA;JA
  10A19 KHAROSHTHI LETTER :NYA;TTA;TTHA;DDA
  10A1D KHAROSHTHI LETTER :DDHA;NNA;TA;THA;DA;DHA;NA;PA;PHA;BA;BHA;MA;YA;RA;LA;VA;SHA;SSA;SA;ZA;HA;KKA;TTTHA;TTTA;VHA
  10A38 KHAROSHTHI SIGN :BAR ABOVE;CAUDA;DOT BELOW
  10A3F KHAROSHTHI :VIRAMA;DIGIT ONE;DIGIT TWO;DIGIT THREE;DIGIT FOUR
  10A44 KHAROSHTHI NUMBER :TEN;TWENTY;ONE HUNDRED;ONE THOUSAND
  10A48 :KHAROSHTHI FRACTION ONE HALF
  10A50 KHAROSHTHI PUNCTUATION :DOT;SMALL CIRCLE;CIRCLE;CRESCENT BAR;MANGALAM;LOTUS;DANDA;DOUBLE DANDA;LINES
  10A60 OLD SOUTH ARABIAN LETTER :HE;LAMEDH;HETH;MEM;QOPH;WAW;SHIN;RESH;BETH;TAW;SAT;KAPH;NUN;KHETH
  10A6E OLD SOUTH ARABIAN LETTER :SADHE;SAMEKH;FE;ALEF;AYN;DHADHE;GIMEL;DALETH;GHAYN;TETH;ZAYN;DHALETH;YODH;THAW;THETH
  10A7D OLD SOUTH ARABIAN :NUMBER ONE;NUMBER FIFTY;NUMERIC INDICATOR
  10A80 OLD NORTH ARABIAN LETTER :HEH;LAM;HAH;MEEM;QAF;WAW;ES-2;REH;BEH;TEH;ES-1
  10A8B OLD NORTH ARABIAN LETTER :KAF;NOON;KHAH;SAD;ES-3;FEH;ALEF;AIN;DAD;GEEM;DAL;GHAIN;TAH;ZAIN;THAL;YEH;THEH;ZAH
  10A9D OLD NORTH ARABIAN NUMBER :ONE;TEN;TWENTY
  10AC0 MANICHAEAN LETTER :ALEPH;BETH;BHETH;GIMEL;GHIMEL;DALETH;HE;WAW
  10AC8 :MANICHAEAN SIGN UD
  10AC9 MANICHAEAN LETTER :ZAYIN;ZHAYIN;JAYIN;JHAYIN;HETH;TETH;YODH;KAPH;XAPH;KHAPH;LAMEDH
  10AD4 MANICHAEAN LETTER :DHAMEDH;THAMEDH;MEM;NUN;SAMEKH;AYIN;AAYIN;PE;FE;SADHE;QOPH;XOPH;QHOPH;RESH;SHIN;SSHIN;TAW
  10AE5 MANICHAEAN ABBREVIATION MARK :ABOVE;BELOW
  10AEB MANICHAEAN NUMBER :ONE;FIVE;TEN;TWENTY;ONE HUNDRED
  10AF0 MANICHAEAN PUNCTUATION :STAR;FLEURON;DOUBLE DOT WITHIN DOT;DOT WITHIN DOT;DOT;TWO DOTS;LINE FILLER
  10B00 AVESTAN LETTER :A;AA;AO;AAO;AN;AAN;AE;AEE;E;EE;O;OO;I;II;U;UU;KE;XE;XYE;XVE;GE;GGE;GHE;CE;JE;TE;THE;DE;DHE
  10B1D AVESTAN LETTER :TTE;PE;FE;BE;BHE;NGE;NGYE;NGVE;NE;NYE;NNE;ME;HME;YYE;YE;VE;RE;LE;SE;ZE;SHE;ZHE;SHYE;SSHE;HE
  10B39 :AVESTAN ABBREVIATION MARK;TINY TWO DOTS OVER ONE DOT PUNCTUATION;SMALL TWO DOTS OVER ONE DOT PUNCTUATION
  10B3C LARGE :TWO DOTS OVER ONE DOT PUNCTUATION;ONE DOT OVER TWO DOTS PUNCTUATION
  10B3E LARGE :TWO RINGS OVER ONE RING PUNCTUATION;ONE RING OVER TWO RINGS PUNCTUATION
  10B40 INSCRIPTIONAL PARTHIAN LETTER :ALEPH;BETH;GIMEL;DALETH;HE;WAW;ZAYIN
  10B47 INSCRIPTIONAL PARTHIAN LETTER :HETH;TETH;YODH;KAPH;LAMEDH;MEM;NUN;SAMEKH;AYIN;PE;SADHE;QOPH;RESH;SHIN;TAW
  10B58 INSCRIPTIONAL PARTHIAN NUMBER :ONE;TWO;THREE;FOUR;TEN;TWENTY;ONE HUNDRED;ONE THOUSAND
  10B60 INSCRIPTIONAL PAHLAVI LETTER :ALEPH;BETH;GIMEL;DALETH;HE;WAW-AYIN-RESH
  10B66 INSCRIPTIONAL PAHLAVI LETTER :ZAYIN;HETH;TETH;YODH;KAPH;LAMEDH;MEM-QOPH;NUN;SAMEKH;PE;SADHE;SHIN;TAW
  10B78 INSCRIPTIONAL PAHLAVI NUMBER :ONE;TWO;THREE;FOUR;TEN;TWENTY;ONE HUNDRED;ONE THOUSAND
  10B80 PSALTER PAHLAVI LETTER :ALEPH;BETH;GIMEL;DALETH
  10B84 PSALTER PAHLAVI LETTER :HE;WAW-AYIN-RESH;ZAYIN;HETH;YODH;KAPH;LAMEDH;MEM-QOPH;NUN;SAMEKH;PE;SADHE;SHIN;TAW
  10B99 PSALTER PAHLAVI :SECTION MARK;TURNED SECTION MARK;FOUR DOTS WITH CROSS;FOUR DOTS WITH DOT
  10BA9 PSALTER PAHLAVI NUMBER :ONE;TWO;THREE;FOUR;TEN;TWENTY;ONE HUNDRED
  10C00 OLD TURKIC LETTER :ORKHON A;YENISEI A;YENISEI AE;ORKHON I;YENISEI I;YENISEI E;ORKHON O;ORKHON OE
  10C08 OLD TURKIC LETTER :YENISEI OE;ORKHON AB;YENISEI AB;ORKHON AEB;YENISEI AEB;ORKHON AG;YENISEI AG;ORKHON AEG
  10C10 OLD TURKIC LETTER :YENISEI AEG;ORKHON AD;YENISEI AD;ORKHON AED;ORKHON EZ;YENISEI EZ;ORKHON AY;YENISEI AY
  10C18 OLD TURKIC LETTER :ORKHON AEY;YENISEI AEY;ORKHON AEK;YENISEI AEK;ORKHON OEK;YENISEI OEK;ORKHON AL;YENISEI AL
  10C20 OLD TURKIC LETTER ORKHON :AEL;ELT;EM;AN;AEN
  10C25 OLD TURKIC LETTER :YENISEI AEN;ORKHON ENT;YENISEI ENT;ORKHON ENC;YENISEI ENC;ORKHON ENY;YENISEI ENY
  10C2C OLD TURKIC LETTER :YENISEI ANG;ORKHON ENG;YENISEI AENG;ORKHON EP;ORKHON OP;ORKHON IC;ORKHON EC;YENISEI EC
  10C34 OLD TURKIC LETTER :ORKHON AQ;YENISEI AQ;ORKHON IQ;YENISEI IQ;ORKHON OQ;YENISEI OQ;ORKHON AR;YENISEI AR
  10C3C OLD TURKIC LETTER ORKHON :AER;AS;AES;ASH
  10C40 OLD TURKIC LETTER :YENISEI ASH;ORKHON ESH;YENISEI ESH;ORKHON AT;YENISEI AT;ORKHON AET;YENISEI AET
  10C47 OLD TURKIC LETTER ORKHON :OT;BASH
  10C80 OLD HUNGARIAN CAPITAL LETTER :A;AA;EB;AMB;EC;ENC;ECS;ED;AND;E;CLOSE E;EE;EF;EG;EGY;EH;I;II;EJ;EK;AK
  10C95 OLD HUNGARIAN CAPITAL LETTER :UNK;EL;ELY;EM;EN;ENY;O;OO;NIKOLSBURG OE;RUDIMENTA OE;OEE;EP;EMP;ER;SHORT ER;ES
  10CA5 OLD HUNGARIAN CAPITAL LETTER :ESZ;ET;ENT;ETY;ECH;U;UU;NIKOLSBURG UE;RUDIMENTA UE;EV;EZ;EZS;ENT-SHAPED SIGN;US
  10CC0 OLD HUNGARIAN SMALL LETTER :A;AA;EB;AMB;EC;ENC;ECS;ED;AND;E;CLOSE E;EE;EF;EG;EGY;EH;I;II;EJ
  10CD3 OLD HUNGARIAN SMALL LETTER :EK;AK;UNK;EL;ELY;EM;EN;ENY;O;OO;NIKOLSBURG OE;RUDIMENTA OE;OEE;EP;EMP;ER;SHORT ER
  10CE4 OLD HUNGARIAN SMALL LETTER :ES;ESZ;ET;ENT;ETY;ECH;U;UU;NIKOLSBURG UE;RUDIMENTA UE;EV;EZ;EZS;ENT-SHAPED SIGN;US
  10CFA OLD HUNGARIAN NUMBER :ONE;FIVE;TEN;FIFTY;ONE HUNDRED;ONE THOUSAND
  10D00 HANIFI ROHINGYA LETTER :A;BA;PA;TA;TTA;JA
  10D06 HANIFI ROHINGYA LETTER :CA;HA;KHA;FA;DA;DDA;RA;RRA;ZA;SA;SHA;KA;GA;LA;MA;NA;WA;KINNA WA;YA;KINNA YA;NGA;NYA;VA
  10D1D HANIFI ROHINGYA VOWEL :A;I;U;E;O
  10D22 HANIFI ROHINGYA :MARK SAKIN;MARK NA KHONNA;SIGN HARBAHAY;SIGN TAHALA;SIGN TANA;SIGN TASSI
  10D30 HANIFI ROHINGYA DIGIT :ZERO;ONE;TWO;THREE;FOUR;FIVE;SIX;SEVEN;EIGHT;NINE
  10E60 RUMI DIGIT :ONE;TWO;THREE;FOUR;FIVE;SIX;SEVEN;EIGHT;NINE
  10E69 RUMI NUMBER :TEN;TWENTY;THIRTY;FORTY;FIFTY;SIXTY;SEVENTY;EIGHTY;NINETY;ONE HUNDRED;TWO HUNDRED
  10E74 RUMI NUMBER :THREE HUNDRED;FOUR HUNDRED;FIVE HUNDRED;SIX HUNDRED;SEVEN HUNDRED;EIGHT HUNDRED;NINE HUNDRED
  10E7B RUMI FRACTION :ONE HALF;ONE QUARTER;ONE THIRD;TWO THIRDS
  10E80 YEZIDI LETTER :ELIF;BE;PE;PHE;THE;SE;CIM;CHIM;CHHIM;HHA;XA;DAL;ZAL;RA;RHA;ZA;JA;SIN;SHIN;SAD;DAD
  10E95 YEZIDI LETTER :TA;ZE;EYN;XHEYN;FA;VA;VA ALTERNATE FORM;QAF;KAF;KHAF;GAF;LAM;MIM;NUN;UM;WAW;OW;EW;HAY;YOT;ET
  10EAB YEZIDI :COMBINING HAMZA MARK;COMBINING MADDA MARK;HYPHENATION MARK
  10EB0 YEZIDI LETTER :LAM WITH DOT ABOVE;YOT WITH CIRCUMFLEX ABOVE
  10F00 OLD SOGDIAN LETTER :ALEPH;FINAL ALEPH;BETH;FINAL BETH;GIMEL;HE;FINAL HE;WAW;ZAYIN;HETH
  10F0A OLD SOGDIAN LETTER :YODH;KAPH;LAMEDH;MEM;NUN;FINAL NUN;FINAL NUN WITH VERTICAL TAIL;SAMEKH;AYIN;ALTERNATE AYIN
  10F14 OLD SOGDIAN LETTER :PE;SADHE;FINAL SADHE;FINAL SADHE WITH VERTICAL TAIL;RESH-AYIN-DALETH;SHIN;TAW
  10F1B OLD SOGDIAN LETTER FINAL :TAW;TAW WITH VERTICAL TAIL
  10F1D OLD SOGDIAN NUMBER :ONE;TWO;THREE;FOUR;FIVE;TEN;TWENTY;THIRTY;ONE HUNDRED
  10F26 OLD SOGDIAN :FRACTION ONE HALF;LIGATURE AYIN-DALETH
  10F30 SOGDIAN LETTER :ALEPH;BETH;GIMEL
  10F33 SOGDIAN LETTER :HE;WAW;ZAYIN;HETH;YODH;KAPH;LAMEDH;MEM;NUN;SAMEKH;AYIN;PE;SADHE;RESH-AYIN;SHIN;TAW;FETH;LESH
  10F45 :SOGDIAN INDEPENDENT SHIN
  10F46 SOGDIAN COMBINING :DOT BELOW;TWO DOTS BELOW;DOT ABOVE;TWO DOTS ABOVE
  10F4A SOGDIAN COMBINING :CURVE ABOVE;CURVE BELOW;HOOK ABOVE;HOOK BELOW;LONG HOOK BELOW;RESH BELOW;STROKE BELOW
  10F51 SOGDIAN NUMBER :ONE;TEN;TWENTY;ONE HUNDRED
  10F55 SOGDIAN PUNCTUATION TWO VERTICAL :BARS;BARS WITH DOTS
  10F57 SOGDIAN PUNCTUATION :CIRCLE WITH DOT;TWO CIRCLES WITH DOTS;HALF CIRCLE WITH DOT
  10F70 OLD UYGHUR LETTER :ALEPH;BETH
  10F72 OLD UYGHUR LETTER :GIMEL-HETH;WAW;ZAYIN;FINAL HETH;YODH;KAPH;LAMEDH;MEM;NUN;SAMEKH;PE;SADHE;RESH;SHIN;TAW;LESH
  10F82 OLD UYGHUR COMBINING :DOT ABOVE;DOT BELOW;TWO DOTS ABOVE;TWO DOTS BELOW
  10F86 OLD UYGHUR PUNCTUATION :BAR;TWO BARS;TWO DOTS;FOUR DOTS
  10FB0 CHORASMIAN LETTER :ALEPH;SMALL ALEPH;BETH;GIMEL
  10FB4 CHORASMIAN LETTER :DALETH;HE;WAW;CURLED WAW;ZAYIN;HETH;YODH;KAPH;LAMEDH;MEM;NUN;SAMEKH;AYIN;PE;RESH;SHIN;TAW
  10FC5 CHORASMIAN NUMBER :ONE;TWO;THREE;FOUR;TEN;TWENTY;ONE HUNDRED
  10FE0 ELYMAIC LETTER :ALEPH;BETH;GIMEL
  10FE3 ELYMAIC LETTER :DALETH;HE;WAW;ZAYIN;HETH;TETH;YODH;KAPH;LAMEDH;MEM;NUN;SAMEKH;AYIN;PE;SADHE;QOPH;RESH;SHIN;TAW
  10FF6 :ELYMAIC LIGATURE ZAYIN-YODH
  11000 BRAHMI SIGN :CANDRABINDU;ANUSVARA;VISARGA;JIHVAMULIYA;UPADHMANIYA
  11005 BRAHMI LETTER :A;AA;I;II;U;UU;VOCALIC R;VOCALIC RR;VOCALIC L;VOCALIC LL;E;AI;O;AU;KA;KHA;GA;GHA;NGA;CA;CHA;JA
  1101B BRAHMI LETTER :JHA;NYA;TTA;TTHA;DDA;DDHA;NNA;TA;THA;DA;DHA;NA;PA;PHA;BA;BHA;MA;YA;RA;LA;VA;SHA;SSA;SA;HA;LLA
  11035 BRAHMI LETTER OLD TAMIL :LLLA;RRA;NNNA
  11038 BRAHMI VOWEL SIGN :AA;BHATTIPROLU AA;I;II;U;UU;VOCALIC R;VOCALIC RR;VOCALIC L;VOCALIC LL;E;AI;O;AU
  11046 BRAHMI :VIRAMA;DANDA;DOUBLE DANDA
  11049 BRAHMI PUNCTUATION :DOT;DOUBLE DOT;LINE;CRESCENT BAR;LOTUS
  11052 BRAHMI NUMBER :ONE;TWO;THREE;FOUR;FIVE;SIX;SEVEN
  11059 BRAHMI NUMBER :EIGHT;NINE;TEN;TWENTY;THIRTY;FORTY;FIFTY;SIXTY;SEVENTY;EIGHTY;NINETY;ONE HUNDRED;ONE THOUSAND
  11066 BRAHMI DIGIT :ZERO;ONE;TWO;THREE;FOUR;FIVE;SIX;SEVEN;EIGHT;NINE
  11070 :BRAHMI SIGN OLD TAMIL VIRAMA
  11071 BRAHMI LETTER OLD TAMIL SHORT :E;O
  11073 BRAHMI VOWEL SIGN OLD TAMIL SHORT :E;O
  11075 :BRAHMI LETTER OLD TAMIL LLA
  1107F :BRAHMI NUMBER JOINER
  11080 KAITHI SIGN :CANDRABINDU;ANUSVARA;VISARGA
  11083 KAITHI LETTER :A;AA;I;II;U;UU;E;AI;O;AU;KA;KHA;GA;GHA;NGA;CA;CHA;JA;JHA
  11096 KAITHI LETTER :NYA;TTA;TTHA;DDA;DDDHA;DDHA;RHA;NNA;TA;THA;DA;DHA;NA;PA;PHA;BA;BHA;MA;YA;RA;LA;VA;SHA;SSA;SA;HA
  110B0 KAITHI VOWEL SIGN :AA;I;II;U;UU;E;AI;O;AU
  110B9 KAITHI :SIGN VIRAMA;SIGN NUKTA;ABBREVIATION SIGN
  110BC KAITHI :ENUMERATION SIGN;NUMBER SIGN;SECTION MARK;DOUBLE SECTION MARK;DANDA;DOUBLE DANDA;VOWEL SIGN VOCALIC R
  110CD :KAITHI NUMBER SIGN ABOVE
  110D0 SORA SOMPENG LETTER :SAH;TAH
  110D2 SORA SOMPENG LETTER :BAH;CAH;DAH;GAH;MAH;NGAH;LAH;NAH;VAH;PAH;YAH;RAH;HAH;KAH;JAH;NYAH;AH;EEH;IH;UH;OH;EH;MAE
  110F0 SORA SOMPENG DIGIT :ZERO;ONE;TWO;THREE;FOUR;FIVE;SIX;SEVEN;EIGHT;NINE
  11100 CHAKMA SIGN :CANDRABINDU;ANUSVARA;VISARGA
  11103 CHAKMA LETTER :AA;I;U;E;KAA;KHAA;GAA;GHAA;NGAA;CAA;CHAA;JAA;JHAA;NYAA;TTAA
  11112 CHAKMA LETTER :TTHAA;DDAA;DDHAA;NNAA;TAA;THAA;DAA;DHAA;NAA;PAA;PHAA;BAA;BHAA;MAA;YYAA;YAA;RAA;LAA;WAA;SAA;HAA
  11127 CHAKMA VOWEL SIGN :A;I;II;U;UU;E;AI;O;AU;OI
  11131 CHAKMA :O MARK;AU MARK;VIRAMA;MAAYYAA
  11136 CHAKMA DIGIT :ZERO;ONE;TWO;THREE;FOUR;FIVE;SIX;SEVEN;EIGHT;NINE
  11140 CHAKMA :SECTION MARK;DANDA;DOUBLE DANDA;QUESTION MARK;LETTER LHAA;VOWEL SIGN AA;VOWEL SIGN EI;LETTER VAA
  11150 MAHAJANI LETTER :A;I;U;E;O;KA;KHA;GA;GHA
  11159 MAHAJANI LETTER :CA;CHA;JA;JHA;NYA;TTA;TTHA;DDA;DDHA;NNA;TA;THA;DA;DHA;NA;PA;PHA;BA;BHA;MA;RA;LA;VA;SA;HA;RRA
  11173 MAHAJANI :SIGN NUKTA;ABBREVIATION SIGN;SECTION MARK;LIGATURE SHRI
  11180 SHARADA SIGN :CANDRABINDU;ANUSVARA;VISARGA
  11183 SHARADA LETTER :A;AA;I;II;U;UU;VOCALIC R;VOCALIC RR;VOCALIC L;VOCALIC LL;E;AI;O;AU;KA;KHA;GA;GHA;NGA;CA;CHA;JA
  11199 SHARADA LETTER :JHA;NYA;TTA;TTHA;DDA;DDHA;NNA;TA;THA;DA;DHA;NA;PA;PHA;BA;BHA;MA;YA;RA;LA;LLA;VA;SHA;SSA;SA;HA
  111B3 SHARADA VOWEL SIGN :AA;I;II;U;UU;VOCALIC R;VOCALIC RR;VOCALIC L;VOCALIC LL;E;AI;O;AU
  111C0 SHARADA SIGN :VIRAMA;AVAGRAHA;JIHVAMULIYA;UPADHMANIYA
  111C4 SHARADA :OM;DANDA;DOUBLE DANDA;ABBREVIATION SIGN;SEPARATOR;SANDHI MARK;SIGN NUKTA;VOWEL MODIFIER MARK
  111CC SHARADA :EXTRA SHORT VOWEL MARK;SUTRA MARK;VOWEL SIGN PRISHTHAMATRA E;SIGN INVERTED CANDRABINDU
  111D0 SHARADA DIGIT :ZERO;ONE;TWO;THREE;FOUR;FIVE;SIX;SEVEN;EIGHT;NINE
  111DA SHARADA :EKAM;SIGN SIDDHAM;HEADSTROKE;CONTINUATION SIGN;SECTION MARK-1;SECTION MARK-2
  111E1 SINHALA ARCHAIC DIGIT :ONE;TWO;THREE;FOUR;FIVE;SIX;SEVEN;EIGHT;NINE
  111EA SINHALA ARCHAIC NUMBER :TEN;TWENTY;THIRTY;FORTY;FIFTY;SIXTY;SEVENTY;EIGHTY;NINETY;ONE HUNDRED;ONE THOUSAND
  11200 KHOJKI LETTER :A;AA;I;U;E;AI;O;AU;KA;KHA;GA;GGA;GHA;NGA;CA;CHA;JA;JJA
  11213 KHOJKI LETTER :NYA;TTA;TTHA;DDA;DDHA;NNA;TA;THA;DA;DDDA;DHA;NA;PA;PHA;BA;BBA;BHA;MA;YA;RA;LA;VA;SA;HA;LLA
  1122C KHOJKI VOWEL SIGN :AA;I;II;U;E;AI;O;AU
  11234 KHOJKI SIGN :ANUSVARA;VIRAMA;NUKTA;SHADDA
  11238 KHOJKI :DANDA;DOUBLE DANDA;WORD SEPARATOR;SECTION MARK;DOUBLE SECTION MARK;ABBREVIATION SIGN;SIGN SUKUN
  11280 MULTANI LETTER :A;I;U;E;KA;KHA;GA
  11288 :MULTANI LETTER GHA
  1128A MULTANI LETTER :CA;CHA;JA;JJA
  1128F MULTANI LETTER :NYA;TTA;TTHA;DDA;DDDA;DDHA;NNA;TA;THA;DA;DHA;NA;PA;PHA;BA
  1129F MULTANI LETTER :BHA;MA;YA;RA;LA;VA;SA;HA;RRA;RHA
  112A9 :MULTANI SECTION MARK
  112B0 KHUDAWADI LETTER :A;AA;I;II;U;UU;E;AI;O;AU;KA;KHA;GA;GGA;GHA;NGA;CA;CHA;JA;JJA;JHA;NYA
  112C6 KHUDAWADI LETTER :TTA;TTHA;DDA;DDDA;RRA;DDHA;NNA;TA;THA;DA;DHA;NA;PA;PHA;BA;BBA;BHA;MA;YA;RA;LA;VA;SHA;SA;HA
  112DF :KHUDAWADI SIGN ANUSVARA
  112E0 KHUDAWADI VOWEL SIGN :AA;I;II;U;UU;E;AI;O;AU
  112E9 KHUDAWADI SIGN :NUKTA;VIRAMA
  112F0 KHUDAWADI DIGIT :ZERO;ONE;TWO;THREE;FOUR;FIVE;SIX;SEVEN;EIGHT;NINE
  11300 GRANTHA SIGN :COMBINING ANUSVARA ABOVE;CANDRABINDU;ANUSVARA;VISARGA
  11305 GRANTHA LETTER :A;AA;I;II;U;UU;VOCALIC R;VOCALIC L
  1130F GRANTHA LETTER :EE;AI
  11313 GRANTHA LETTER :OO;AU;KA;KHA;GA;GHA;NGA;CA;CHA;JA;JHA;NYA;TTA;TTHA;DDA;DDHA;NNA;TA;THA;DA;DHA;NA
  1132A GRANTHA LETTER :PA;PHA;BA;BHA;MA;YA;RA
  11332 GRANTHA LETTER :LA;LLA
  11335 GRANTHA LETTER :VA;SHA;SSA;SA;HA
  1133B :COMBINING BINDU BELOW
  1133C GRANTHA SIGN :NUKTA;AVAGRAHA
  1133E GRANTHA VOWEL SIGN :AA;I;II;U;UU;VOCALIC R;VOCALIC RR
  11347 GRANTHA VOWEL SIGN :EE;AI
  1134B GRANTHA :VOWEL SIGN OO;VOWEL SIGN AU;SIGN VIRAMA
  11350 :GRANTHA OM
  11357 :GRANTHA AU LENGTH MARK
  1135D :GRANTHA SIGN PLUTA
  1135E GRANTHA LETTER :VEDIC ANUSVARA;VEDIC DOUBLE ANUSVARA;VOCALIC RR;VOCALIC LL
  11362 GRANTHA VOWEL SIGN VOCALIC :L;LL
  11366 COMBINING GRANTHA DIGIT :ZERO;ONE;TWO;THREE;FOUR;FIVE;SIX
  11370 COMBINING GRANTHA LETTER :A;KA;NA;VI;PA
  11400 NEWA LETTER :A;AA;I;II;U;UU
  11406 NEWA LETTER VOCALIC :R;RR;L;LL
  1140A NEWA LETTER :E;AI;O;AU;KA;KHA;GA;GHA;NGA;NGHA;CA;CHA;JA;JHA;NYA;NYHA
  1141A NEWA LETTER :TTA;TTHA;DDA;DDHA;NNA;TA;THA;DA;DHA;NA;NHA;PA;PHA;BA;BHA;MA;MHA;YA;RA;RHA;LA;LHA;WA;SHA;SSA;SA;HA
  11435 NEWA VOWEL SIGN :AA;I;II;U;UU;VOCALIC R;VOCALIC RR;VOCALIC L;VOCALIC LL;E;AI;O;AU
  11442 NEWA SIGN :VIRAMA;CANDRABINDU;ANUSVARA;VISARGA;NUKTA;AVAGRAHA;FINAL ANUSVARA
  11449 NEWA :OM;SIDDHI;DANDA;DOUBLE DANDA;COMMA;GAP FILLER;ABBREVIATION SIGN
  11450 NEWA DIGIT :ZERO;ONE;TWO;THREE;FOUR;FIVE;SIX;SEVEN;EIGHT;NINE
  1145A NEWA :DOUBLE COMMA;PLACEHOLDER MARK
  1145D NEWA :INSERTION SIGN;SANDHI MARK;LETTER VEDIC ANUSVARA;SIGN JIHVAMULIYA;SIGN UPADHMANIYA
  11480 :TIRHUTA ANJI
  11481 TIRHUTA LETTER :A;AA;I;II;U;UU;VOCALIC R;VOCALIC RR;VOCALIC L;VOCALIC LL;E;AI;O;AU;KA;KHA;GA;GHA;NGA;CA;CHA
  11496 TIRHUTA LETTER :JA;JHA;NYA;TTA;TTHA;DDA;DDHA;NNA;TA;THA;DA;DHA;NA;PA;PHA;BA;BHA;MA;YA;RA;LA;VA;SHA;SSA;SA;HA
  114B0 TIRHUTA VOWEL SIGN :AA;I;II;U;UU;VOCALIC R;VOCALIC RR;VOCALIC L;VOCALIC LL;E;SHORT E;AI;O;SHORT O;AU
  114BF TIRHUTA SIGN :CANDRABINDU;ANUSVARA;VISARGA;VIRAMA;NUKTA;AVAGRAHA
  114C5 TIRHUTA :GVANG;ABBREVIATION SIGN;OM
  114D0 TIRHUTA DIGIT :ZERO;ONE;TWO;THREE;FOUR;FIVE;SIX;SEVEN;EIGHT;NINE
  11580 SIDDHAM LETTER :A;AA;I;II;U;UU;VOCALIC R;VOCALIC RR;VOCALIC L;VOCALIC LL;E;AI;O;AU;KA;KHA;GA;GHA;NGA;CA;CHA
  11595 SIDDHAM LETTER :JA;JHA;NYA;TTA;TTHA;DDA;DDHA;NNA;TA;THA;DA;DHA;NA;PA;PHA;BA;BHA;MA;YA;RA;LA;VA;SHA;SSA;SA;HA
  115AF SIDDHAM VOWEL SIGN :AA;I;II;U;UU;VOCALIC R;VOCALIC RR
  115B8 SIDDHAM VOWEL SIGN :E;AI;O;AU
  115BC SIDDHAM SIGN :CANDRABINDU;ANUSVARA;VISARGA;VIRAMA;NUKTA;SIDDHAM
  115C2 SIDDHAM :DANDA;DOUBLE DANDA;SEPARATOR DOT;SEPARATOR BAR
  115C6 SIDDHAM REPETITION MARK-:1;2;3
  115C9 :SIDDHAM END OF TEXT MARK
  115CA SIDDHAM SECTION MARK WITH TRIDENT AND :U-SHAPED ORNAMENTS;DOTTED CRESCENTS
  115CC SIDDHAM SECTION MARK WITH RAYS AND DOTTED :CRESCENTS;DOUBLE CRESCENTS;TRIPLE CRESCENTS
  115CF SIDDHAM SECTION MARK DOUBLE :RING;RING WITH RAYS
  115D1 SIDDHAM SECTION MARK WITH :DOUBLE CRESCENTS;TRIPLE CRESCENTS;QUADRUPLE CRESCENTS;SEPTUPLE CRESCENTS
  115D5 SIDDHAM SECTION MARK WITH CIRCLES AND :RAYS;TWO ENCLOSURES;FOUR ENCLOSURES
  115D8 SIDDHAM LETTER :THREE-CIRCLE ALTERNATE I;TWO-CIRCLE ALTERNATE I;TWO-CIRCLE ALTERNATE II;ALTERNATE U
  115DC SIDDHAM VOWEL SIGN ALTERNATE :U;UU
  11600 MODI LETTER :A;AA;I;II;U;UU;VOCALIC R;VOCALIC RR;VOCALIC L;VOCALIC LL;E;AI;O;AU;KA;KHA;GA;GHA;NGA;CA;CHA
  11615 MODI LETTER :JA;JHA;NYA;TTA;TTHA;DDA;DDHA;NNA;TA;THA;DA;DHA;NA;PA;PHA;BA;BHA;MA;YA;RA;LA;VA;SHA;SSA;SA;HA;LLA
  11630 MODI VOWEL SIGN :AA;I;II;U;UU;VOCALIC R;VOCALIC RR;VOCALIC L;VOCALIC LL;E;AI;O;AU
  1163D MODI SIGN :ANUSVARA;VISARGA;VIRAMA;ARDHACANDRA
  11641 MODI :DANDA;DOUBLE DANDA;ABBREVIATION SIGN;SIGN HUVA
  11650 MODI DIGIT :ZERO;ONE;TWO;THREE;FOUR;FIVE;SIX;SEVEN;EIGHT;NINE
  11660 :MONGOLIAN BIRGA WITH ORNAMENT
  11661 MONGOLIAN :ROTATED BIRGA;DOUBLE BIRGA WITH ORNAMENT;TRIPLE BIRGA WITH ORNAMENT;BIRGA WITH DOUBLE ORNAMENT
  11665 MONGOLIAN ROTATED BIRGA WITH :ORNAMENT;DOUBLE ORNAMENT
  11667 MONGOLIAN INVERTED :BIRGA;BIRGA WITH DOUBLE ORNAMENT
  11669 MONGOLIAN SWIRL :BIRGA;BIRGA WITH ORNAMENT;BIRGA WITH DOUBLE ORNAMENT
  1166C :MONGOLIAN TURNED SWIRL BIRGA WITH DOUBLE ORNAMENT
  11680 TAKRI LETTER :A;AA;I;II;U;UU;E;AI;O;AU;KA;KHA;GA;GHA;NGA;CA
  11690 TAKRI LETTER :CHA;JA;JHA;NYA;TTA;TTHA;DDA;DDHA;NNA;TA;THA;DA;DHA;NA;PA;PHA;BA;BHA;MA;YA;RA;LA;VA;SHA;SA;HA;RRA
  116AB TAKRI SIGN :ANUSVARA;VISARGA
  116AD TAKRI VOWEL SIGN :AA;I;II;U;UU;E;AI;O;AU
  116B6 TAKRI :SIGN VIRAMA;SIGN NUKTA;LETTER ARCHAIC KHA;ABBREVIATION SIGN
  116C0 TAKRI DIGIT :ZERO;ONE;TWO;THREE;FOUR;FIVE;SIX;SEVEN;EIGHT;NINE
  11700 AHOM LETTER :KA;KHA;NGA;NA;TA;ALTERNATE TA
  11706 AHOM LETTER :PA;PHA;BA;MA;JA;CHA;THA;RA;LA;SA;NYA;HA;A;DA;DHA;GA;ALTERNATE GA;GHA;BHA;JHA;ALTERNATE BA
  1171D AHOM CONSONANT SIGN MEDIAL :LA;RA;LIGATING RA
  11720 AHOM VOWEL SIGN :A;AA;I;II;U;UU;E;AW;O;AI;AM
  1172B :AHOM SIGN KILLER
  11730 AHOM DIGIT :ZERO;ONE;TWO;THREE;FOUR;FIVE;SIX;SEVEN;EIGHT;NINE
  1173A AHOM :NUMBER TEN;NUMBER TWENTY;SIGN SMALL SECTION;SIGN SECTION;SIGN RULAI;SYMBOL VI
  11740 AHOM LETTER :CA;TTA;TTHA;DDA;DDHA;NNA;LLA
  11800 DOGRA LETTER :A;AA;I;II;U;UU;E;AI;O;AU;KA;KHA;GA;GHA;NGA;CA;CHA
  11811 DOGRA LETTER :JA;JHA;NYA;TTA;TTHA;DDA;DDHA;NNA;TA;THA;DA;DHA;NA;PA;PHA;BA;BHA;MA;YA;RA;LA;VA;SHA;SSA;SA;HA;RRA
  1182C DOGRA VOWEL SIGN :AA;I;II;U;UU;VOCALIC R;VOCALIC RR;E;AI;O;AU
  11837 DOGRA SIGN :ANUSVARA;VISARGA;VIRAMA;NUKTA
  1183B :DOGRA ABBREVIATION SIGN
  118A0 WARANG CITI CAPITAL LETTER :NGAA;A;WI;YU;YA;YO;II;UU;E;O;ANG
  118AB WARANG CITI CAPITAL LETTER :GA;KO;ENY;YUJ;UC;ENN;ODD;TTE;NUNG;DA;AT;AM;BU;PU;HIYO;HOLO;HORR;HAR;SSUU;SII;VIYO
  118C0 WARANG CITI SMALL LETTER :NGAA;A;WI;YU;YA;YO;II;UU;E;O;ANG
  118CB WARANG CITI SMALL LETTER :GA;KO;ENY;YUJ;UC;ENN;ODD;TTE;NUNG;DA;AT;AM;BU;PU;HIYO;HOLO;HORR;HAR;SSUU;SII;VIYO
  118E0 WARANG CITI DIGIT :ZERO;ONE;TWO;THREE;FOUR;FIVE;SIX;SEVEN;EIGHT;NINE
  118EA WARANG CITI NUMBER :TEN;TWENTY;THIRTY;FORTY;FIFTY;SIXTY;SEVENTY;EIGHTY;NINETY
  118FF :WARANG CITI OM
  11900 DIVES AKURU LETTER :A;AA;I;II;U;UU;E
  11909 :DIVES AKURU LETTER O
  1190C DIVES AKURU LETTER :KA;KHA;GA;GHA;NGA;CA;CHA;JA
  11915 DIVES AKURU LETTER :NYA;TTA
  11918 DIVES AKURU LETTER :DDA;DDHA;NNA;TA;THA;DA;DHA;NA;PA;PHA;BA;BHA;MA;YA;YYA;RA;LA;VA;SHA;SSA;SA;HA;LLA;ZA
  11930 DIVES AKURU VOWEL SIGN :AA;I;II;U;UU;E
  11937 DIVES AKURU VOWEL SIGN :AI;O
  1193B DIVES AKURU :SIGN ANUSVARA;SIGN CANDRABINDU;SIGN HALANTA;VIRAMA;PREFIXED NASAL SIGN
  11940 DIVES AKURU :MEDIAL YA;INITIAL RA;MEDIAL RA;SIGN NUKTA;DOUBLE DANDA;GAP FILLER;END OF TEXT MARK
  11950 DIVES AKURU DIGIT :ZERO;ONE;TWO;THREE;FOUR;FIVE;SIX;SEVEN;EIGHT;NINE
  119A0 NANDINAGARI LETTER :A;AA;I;II;U;UU;VOCALIC R;VOCALIC RR
  119AA NANDINAGARI LETTER :E;AI;O;AU;KA;KHA;GA;GHA;NGA;CA;CHA;JA;JHA;NYA
  119B8 NANDINAGARI LETTER :TTA;TTHA;DDA;DDHA;NNA;TA;THA;DA;DHA;NA;PA;PHA;BA;BHA;MA;YA;RA;LA;VA;SHA;SSA;SA;HA;LLA;RRA
  119D1 NANDINAGARI VOWEL SIGN :AA;I;II;U;UU;VOCALIC R;VOCALIC RR
  119DA NANDINAGARI VOWEL SIGN :E;AI;O;AU
  119DE NANDINAGARI SIGN :ANUSVARA;VISARGA;VIRAMA;AVAGRAHA;SIDDHAM
  119E3 NANDINAGARI :HEADSTROKE;VOWEL SIGN PRISHTHAMATRA E
  11A00 :ZANABAZAR SQUARE LETTER A
  11A01 ZANABAZAR SQUARE VOWEL SIGN :I;UE;U;E;OE;O;AI;AU;REVERSED I
  11A0A :ZANABAZAR SQUARE VOWEL LENGTH MARK
  11A0B ZANABAZAR SQUARE LETTER :KA;KHA;GA;GHA;NGA;CA;CHA;JA;NYA;TTA;TTHA;DDA;DDHA;NNA;TA;THA
  11A1B ZANABAZAR SQUARE LETTER :DA;DHA;NA;PA;PHA;BA;BHA;MA;TSA;TSHA;DZA;DZHA;ZHA;ZA;-A;YA;RA;LA;VA;SHA;SSA;SA;HA;KSSA
  11A33 ZANABAZAR SQUARE :FINAL CONSONANT MARK;SIGN VIRAMA;SIGN CANDRABINDU;SIGN CANDRABINDU WITH ORNAMENT
  11A37 ZANABAZAR SQUARE :SIGN CANDRA WITH ORNAMENT;SIGN ANUSVARA;SIGN VISARGA;CLUSTER-INITIAL LETTER RA
  11A3B ZANABAZAR SQUARE CLUSTER-FINAL LETTER :YA;RA;LA;VA
  11A3F ZANABAZAR SQUARE :INITIAL HEAD MARK;CLOSING HEAD MARK;MARK TSHEG;MARK SHAD;MARK DOUBLE SHAD
  11A44 ZANABAZAR SQUARE :MARK LONG TSHEG;INITIAL DOUBLE-LINED HEAD MARK;CLOSING DOUBLE-LINED HEAD MARK;SUBJOINER
  11A50 :SOYOMBO LETTER A
  11A51 SOYOMBO VOWEL SIGN :I;UE;U;E;O;OE;AI;AU;VOCALIC R;VOCALIC L
  11A5B :SOYOMBO VOWEL LENGTH MARK
  11A5C SOYOMBO LETTER :KA;KHA;GA;GHA;NGA;CA;CHA;JA;JHA;NYA;TTA;TTHA;DDA;DDHA
  11A6A SOYOMBO LETTER :NNA;TA;THA;DA;DHA;NA;PA;PHA;BA;BHA;MA;TSA;TSHA;DZA;ZHA;ZA;-A;YA;RA;LA;VA;SHA;SSA;SA;HA;KSSA
  11A84 SOYOMBO SIGN :JIHVAMULIYA;UPADHMANIYA
  11A86 SOYOMBO CLUSTER-INITIAL LETTER :RA;LA;SHA;SA
  11A8A SOYOMBO FINAL CONSONANT SIGN :G;K;NG;D;N;B;M;R;L;SH;S;-A
  11A96 SOYOMBO :SIGN ANUSVARA;SIGN VISARGA;GEMINATION MARK;SUBJOINER;MARK TSHEG;MARK SHAD;MARK DOUBLE SHAD;MARK PLUTA
  11A9E SOYOMBO HEAD MARK WITH MOON AND :SUN AND TRIPLE FLAME;SUN AND FLAME;SUN
  11AA1 SOYOMBO TERMINAL MARK-:1;2
  11AB0 CANADIAN SYLLABICS NATTILIK :HI;HII;HO;HOO;HA;HAA;SHRI;SHRII;SHRO;SHROO;SHRA;SHRAA
  11ABC CANADIAN SYLLABICS :SPE;SPI;SPO;SPA
  11AC0 PAU CIN HAU LETTER :PA;KA;LA;MA;DA;ZA;VA;NGA;HA;GA;KHA;SA;BA;CA;TA;THA;NA;PHA;RA;FA;CHA;A;E;I;O;U;UA;IA
  11ADC PAU CIN HAU LETTER FINAL :P;K;T;M;N;L;W;NG;Y
  11AE5 PAU CIN HAU :RISING TONE LONG;RISING TONE;SANDHI GLOTTAL STOP;RISING TONE LONG FINAL;RISING TONE FINAL
  11AEA PAU CIN HAU SANDHI :GLOTTAL STOP FINAL;TONE LONG;TONE;TONE LONG FINAL;TONE FINAL
  11AEF PAU CIN HAU :MID-LEVEL TONE;GLOTTAL STOP VARIANT;MID-LEVEL TONE LONG FINAL;MID-LEVEL TONE FINAL
  11AF3 PAU CIN HAU LOW-FALLING :TONE LONG;TONE
  11AF5 PAU CIN HAU :GLOTTAL STOP;LOW-FALLING TONE LONG FINAL;LOW-FALLING TONE FINAL;GLOTTAL STOP FINAL
  11C00 BHAIKSUKI LETTER :A;AA;I;II;U;UU;VOCALIC R;VOCALIC RR;VOCALIC L
  11C0A BHAIKSUKI LETTER :E;AI;O;AU;KA;KHA;GA;GHA;NGA;CA;CHA
  11C15 BHAIKSUKI LETTER :JA;JHA;NYA;TTA;TTHA;DDA;DDHA;NNA;TA;THA;DA;DHA;NA;PA;PHA;BA;BHA;MA;YA;RA;LA;VA;SHA;SSA;SA;HA
  11C2F BHAIKSUKI VOWEL SIGN :AA;I;II;U;UU;VOCALIC R;VOCALIC RR;VOCALIC L
  11C38 BHAIKSUKI VOWEL SIGN :E;AI;O;AU
  11C3C BHAIKSUKI SIGN :CANDRABINDU;ANUSVARA;VISARGA;VIRAMA;AVAGRAHA
  11C41 BHAIKSUKI :DANDA;DOUBLE DANDA;WORD SEPARATOR;GAP FILLER-1;GAP FILLER-2
  11C50 BHAIKSUKI DIGIT :ZERO;ONE;TWO;THREE;FOUR;FIVE;SIX;SEVEN;EIGHT;NINE
  11C5A BHAIKSUKI NUMBER :ONE;TWO;THREE;FOUR;FIVE;SIX;SEVEN;EIGHT;NINE;TEN;TWENTY;THIRTY;FORTY;FIFTY;SIXTY;SEVENTY
  11C6A BHAIKSUKI :NUMBER EIGHTY;NUMBER NINETY;HUNDREDS UNIT MARK
  11C70 MARCHEN :HEAD MARK;MARK SHAD;LETTER KA;LETTER KHA
  11C74 MARCHEN LETTER :GA;NGA;CA;CHA;JA;NYA;TA;THA;DA;NA;PA;PHA;BA;MA;TSA;TSHA;DZA;WA;ZHA;ZA;-A;YA;RA;LA;SHA;SA;HA;A
  11C92 MARCHEN SUBJOINED LETTER :KA;KHA;GA;NGA;CA;CHA;JA;NYA;TA;THA;DA;NA;PA;PHA;BA;MA;TSA;TSHA;DZA;WA;ZHA;ZA
  11CA9 MARCHEN SUBJOINED LETTER :YA;RA;LA;SHA;SA;HA;A
  11CB0 MARCHEN VOWEL SIGN :AA;I;U;E;O
  11CB5 MARCHEN SIGN :ANUSVARA;CANDRABINDU
  11D00 MASARAM GONDI LETTER :A;AA;I;II;U;UU;E
  11D08 MASARAM GONDI LETTER :AI;O
  11D0B MASARAM GONDI LETTER :AU;KA;KHA;GA;GHA;NGA;CA;CHA;JA;JHA;NYA;TTA;TTHA;DDA
  11D19 MASARAM GONDI LETTER :DDHA;NNA;TA;THA;DA;DHA;NA;PA;PHA;BA;BHA;MA;YA;RA;LA;VA;SHA;SSA;SA;HA;LLA;KSSA;JNYA;TRA
  11D31 MASARAM GONDI VOWEL SIGN :AA;I;II;U;UU;VOCALIC R
  11D3A :MASARAM GONDI VOWEL SIGN E
  11D3C MASARAM GONDI VOWEL SIGN :AI;O
  11D3F :MASARAM GONDI VOWEL SIGN AU
  11D40 MASARAM GONDI :SIGN ANUSVARA;SIGN VISARGA;SIGN NUKTA;SIGN CANDRA;SIGN HALANTA;VIRAMA;REPHA;RA-KARA
  11D50 MASARAM GONDI DIGIT :ZERO;ONE;TWO;THREE;FOUR;FIVE;SIX;SEVEN;EIGHT;NINE
  11D60 GUNJALA GONDI LETTER :A;AA;I;II;U;UU
  11D67 GUNJALA GONDI LETTER :EE;AI
  11D6A GUNJALA GONDI LETTER :OO;AU;YA;VA;BA;BHA;MA;KA
  11D72 GUNJALA GONDI LETTER :KHA;TA;THA;LA;GA;GHA;DA;DHA;NA;CA;CHA;TTA;TTHA;LLA;JA;JHA;DDA;DDHA;NGA;PA;PHA;HA;RA;SA
  11D8A GUNJALA GONDI VOWEL SIGN :AA;I;II;U;UU
  11D90 GUNJALA GONDI VOWEL SIGN :EE;AI
  11D93 GUNJALA GONDI :VOWEL SIGN OO;VOWEL SIGN AU;SIGN ANUSVARA;SIGN VISARGA;VIRAMA;OM
  11DA0 GUNJALA GONDI DIGIT :ZERO;ONE;TWO;THREE;FOUR;FIVE;SIX;SEVEN;EIGHT;NINE
  11EE0 MAKASAR LETTER :KA;GA;NGA;PA;BA;MA;TA;DA;NA;CA;JA;NYA;YA;RA;LA;VA;SA;A
  11EF2 MAKASAR :ANGKA;VOWEL SIGN I;VOWEL SIGN U;VOWEL SIGN E;VOWEL SIGN O;PASSIMBANG;END OF SECTION
  11FB0 :LISU LETTER YHA
  11FC0 TAMIL FRACTION ONE :THREE-HUNDRED-AND-TWENTIETH;ONE-HUNDRED-AND-SIXTIETH;EIGHTIETH;SIXTY-FOURTH;FORTIETH
  11FC5 TAMIL FRACTION :ONE THIRTY-SECOND;THREE EIGHTIETHS;THREE SIXTY-FOURTHS;ONE TWENTIETH
  11FC9 TAMIL FRACTION :ONE SIXTEENTH-1;ONE SIXTEENTH-2;ONE TENTH;ONE EIGHTH;THREE TWENTIETHS;THREE SIXTEENTHS
  11FCF TAMIL FRACTION :ONE FIFTH;ONE QUARTER;ONE HALF-1;ONE HALF-2;THREE QUARTERS;DOWNSCALING FACTOR KIIZH
  11FD5 TAMIL SIGN :NEL;CEVITU;AAZHAAKKU;UZHAKKU;MUUVUZHAKKU;KURUNI;PATHAKKU;MUKKURUNI;KAACU;PANAM;PON;VARAAKAN;PAARAM
  11FE2 TAMIL :SIGN KUZHI;SIGN VELI;WET CULTIVATION SIGN;DRY CULTIVATION SIGN;LAND SIGN;SALT PAN SIGN
  11FE8 TAMIL TRADITIONAL :CREDIT SIGN;NUMBER SIGN
  11FEA TAMIL :CURRENT SIGN;AND ODD SIGN;SPENT SIGN;TOTAL SIGN;IN POSSESSION SIGN;STARTING FROM SIGN
  11FF0 TAMIL SIGN :MUTHALIYA;VAKAIYARAA
  11FFF :TAMIL PUNCTUATION END OF TEXT;CUNEIFORM SIGN A
  12001 CUNEIFORM SIGN A TIMES :A;BAD;GAN2 TENU;HA;IGI;LAGAR GUNU;MUSH;SAG
  12009 CUNEIFORM SIGN :A2;AB
  1200B CUNEIFORM SIGN AB TIMES :ASH2;DUN3 GUNU;GAL;GAN2 TENU;HA;IGI GUNU;IMIN;LAGAB;SHESH;U PLUS U PLUS U
  12015 CUNEIFORM SIGN :AB GUNU;AB2
  12017 CUNEIFORM SIGN AB2 TIMES :BALAG;GAN2 TENU;ME PLUS EN;SHA3;TAK4
  1201C CUNEIFORM SIGN :AD;AK;AK TIMES ERIN2;AK TIMES SHITA PLUS GISH;AL
  12021 CUNEIFORM SIGN AL TIMES :AL;DIM2;GISH;HA;KAD3;KI;SHE;USH
  12029 CUNEIFORM SIGN :ALAN;ALEPH;AMAR;AMAR TIMES SHE;AN;AN OVER AN;AN THREE TIMES;AN PLUS NAGA OPPOSING AN PLUS NAGA
  12031 CUNEIFORM SIGN :AN PLUS NAGA SQUARED;ANSHE;APIN;ARAD;ARAD TIMES KUR;ARKAB;ASAL2;ASH
  12039 CUNEIFORM SIGN ASH :ZIDA TENU;KABA TENU;OVER ASH TUG2 OVER TUG2 TUG2 OVER TUG2 PAP
  1203C CUNEIFORM SIGN ASH OVER ASH OVER :ASH;ASH CROSSING ASH OVER ASH OVER ASH
  1203E CUNEIFORM SIGN :ASH2;ASHGAB;BA;BAD;BAG3;BAHAR2;BAL;BAL OVER BAL;BALAG;BAR;BARA2;BI
  1204A CUNEIFORM SIGN BI TIMES :A;GAR;IGI GUNU
  1204D CUNEIFORM SIGN :BU;BU OVER BU AB;BU OVER BU UN;BU CROSSING BU;BULUG;BULUG OVER BULUG;BUR;BUR2;DA;DAG
  12057 CUNEIFORM SIGN DAG KISIM5 TIMES :A PLUS MASH;AMAR;BALAG;BI;GA;GA PLUS MASH;GI;GIR2;GUD;HA;IR;IR PLUS LU
  12063 CUNEIFORM SIGN DAG KISIM5 TIMES :KAK;LA;LU;LU PLUS MASH2;LUM;NE;PAP PLUS PAP;SI;TAK4;U2 PLUS GIR2;USH
  1206E CUNEIFORM SIGN :DAM;DAR;DARA3;DARA4;DI;DIB;DIM;DIM TIMES SHE;DIM2
  12077 CUNEIFORM SIGN :DIN;DIN KASKAL U GUNU DISH;DISH;DU;DU OVER DU;DU GUNU;DU SHESHIG;DUB;DUB TIMES ESH2;DUB2;DUG
  12082 CUNEIFORM SIGN :DUGUD;DUH;DUN;DUN3;DUN3 GUNU;DUN3 GUNU GUNU;DUN4;DUR2;E;E TIMES PAP;E OVER E NUN OVER NUN;E2
  1208E CUNEIFORM SIGN E2 TIMES :A PLUS HA PLUS DA;GAR;MI;SAL;SHE;U
  12094 CUNEIFORM SIGN :EDIN;EGIR;EL;EN;EN TIMES GAN2
  12099 CUNEIFORM SIGN :EN TIMES GAN2 TENU;EN TIMES ME;EN CROSSING EN;EN OPPOSING EN;EN SQUARED;EREN;ERIN2;ESH2;EZEN
  120A2 CUNEIFORM SIGN EZEN TIMES :A;A PLUS LAL;A PLUS LAL TIMES LAL;AN;BAD;DUN3 GUNU;DUN3 GUNU GUNU
  120A9 CUNEIFORM SIGN EZEN TIMES :HA;HA GUNU;IGI GUNU;KASKAL;KASKAL SQUARED;KU3;LA;LAL TIMES LAL;LI;LU;U2;UD
  120B5 CUNEIFORM SIGN :GA;GA GUNU;GA2
  120B8 CUNEIFORM SIGN GA2 TIMES A PLUS :DA PLUS HA;HA;IGI
  120BB CUNEIFORM SIGN GA2 TIMES :AB2 TENU PLUS TAB;AN;ASH;ASH2 PLUS GAL;BAD;BAR PLUS RA;BUR;BUR PLUS RA
  120C3 CUNEIFORM SIGN GA2 TIMES :DA;DI;DIM TIMES SHE;DUB;EL;EL PLUS LA;EN;EN TIMES GAN2 TENU;GAN2 TENU;GAR
  120CD CUNEIFORM SIGN GA2 TIMES :GI;GI4;GI4 PLUS A;GIR2 PLUS SU;HA PLUS LU PLUS ESH2;HAL;HAL PLUS LA;HI PLUS LI;HUB2
  120D6 CUNEIFORM SIGN GA2 TIMES :IGI GUNU;ISH PLUS HU PLUS ASH;KAK;KASKAL;KID;KID PLUS LAL;KU3 PLUS AN;LA;ME PLUS EN
  120DF CUNEIFORM SIGN GA2 TIMES :MI;NUN;NUN OVER NUN;PA;SAL;SAR;SHE;SHE PLUS TUR;SHID;SUM;TAK4;U;UD;UD PLUS DU
  120ED CUNEIFORM SIGN :GA2 OVER GA2;GABA;GABA CROSSING GABA
  120F0 CUNEIFORM SIGN :GAD;GAD OVER GAD GAR OVER GAR;GAL;GAL GAD OVER GAD GAR OVER GAR;GALAM;GAM;GAN;GAN2;GAN2 TENU
  120F9 CUNEIFORM SIGN :GAN2 OVER GAN2;GAN2 CROSSING GAN2;GAR;GAR3;GASHAN;GESHTIN;GESHTIN TIMES KUR;GI;GI TIMES E
  12102 CUNEIFORM SIGN :GI TIMES U;GI CROSSING GI;GI4;GI4 OVER GI4;GI4 CROSSING GI4;GIDIM;GIR2;GIR2 GUNU;GIR3
  1210B CUNEIFORM SIGN GIR3 TIMES :A PLUS IGI;GAN2 TENU;IGI;LU PLUS IGI;PA
  12110 CUNEIFORM SIGN :GISAL;GISH;GISH CROSSING GISH;GISH TIMES BAD;GISH TIMES TAK4;GISH TENU;GU;GU CROSSING GU;GU2
  12119 CUNEIFORM SIGN GU2 TIMES :KAK;KAK TIMES IGI GUNU;NUN;SAL PLUS TUG2
  1211D CUNEIFORM SIGN :GU2 GUNU;GUD;GUD TIMES A PLUS KUR;GUD TIMES KUR
  12121 CUNEIFORM SIGN :GUD OVER GUD LUGAL;GUL;GUM;GUM TIMES SHE;GUR;GUR7;GURUN;GURUSH;HA;HA TENU;HA GUNU;HAL;HI
  1212E CUNEIFORM SIGN HI TIMES :ASH;ASH2;BAD;DISH;GAD;KIN;NUN;SHE;U
  12137 CUNEIFORM SIGN :HU;HUB2
  12139 CUNEIFORM SIGN HUB2 TIMES :AN;HAL;KASKAL;LISH;UD
  1213E CUNEIFORM SIGN :HUL2;I;I A;IB;IDIM;IDIM OVER IDIM BUR;IDIM OVER IDIM SQUARED
  12145 CUNEIFORM SIGN :IG;IGI;IGI DIB;IGI RI;IGI OVER IGI SHIR OVER SHIR UD OVER UD;IGI GUNU;IL;IL TIMES GAN2 TENU
  1214D CUNEIFORM SIGN :IL2;IM;IM TIMES TAK4;IM CROSSING IM;IM OPPOSING IM;IM SQUARED;IMIN;IN;IR;ISH;KA
  12158 CUNEIFORM SIGN KA TIMES :A;AD;AD PLUS KU3;ASH2;BAD;BALAG;BAR;BI;ERIN2;ESH2
  12162 CUNEIFORM SIGN KA TIMES :GA;GAL;GAN2 TENU;GAR;GAR PLUS SHA3 PLUS A;GI;GIR2;GISH PLUS SAR;GISH CROSSING GISH
  1216B CUNEIFORM SIGN KA TIMES :GU;GUR7;IGI;IM;KAK;KI;KID;LI;LU;ME;ME PLUS DU;ME PLUS GI;ME PLUS TE;MI;MI PLUS NUNUZ
  1217A CUNEIFORM SIGN KA TIMES :NE;NUN;PI;RU;SA;SAR;SHA;SHE;SHID;SHU;SIG;SUHUR;TAR;U;U2;UD;UMUM TIMES PA;USH;ZI
  1218D CUNEIFORM SIGN :KA2;KA2 CROSSING KA2;KAB;KAD2;KAD3;KAD4;KAD5;KAD5 OVER KAD5;KAK;KAK TIMES IGI GUNU
  12197 CUNEIFORM SIGN :KAL;KAL TIMES BAD;KAL CROSSING KAL;KAM2;KAM4;KASKAL;KASKAL LAGAB TIMES U OVER LAGAB TIMES U
  1219E CUNEIFORM SIGN :KASKAL OVER KASKAL LAGAB TIMES U OVER LAGAB TIMES U;KESH2;KI
  121A1 CUNEIFORM SIGN KI TIMES :BAD;U;UD
  121A4 CUNEIFORM SIGN :KID;KIN;KISAL;KISH;KISIM5;KISIM5 OVER KISIM5;KU;KU OVER HI TIMES ASH2 KU OVER HI TIMES ASH2
  121AC CUNEIFORM SIGN :KU3;KU4;KU4 VARIANT FORM;KU7;KUL;KUL GUNU;KUN;KUR;KUR OPPOSING KUR;KUSHU2;KWU318;LA;LAGAB
  121B9 CUNEIFORM SIGN LAGAB TIMES :A;A PLUS DA PLUS HA;A PLUS GAR;A PLUS LAL;AL;AN;ASH ZIDA TENU;BAD;BI;DAR;EN;GA
  121C5 CUNEIFORM SIGN LAGAB TIMES :GAR;GUD;GUD PLUS GUD;HA;HAL;HI TIMES NUN;IGI GUNU;IM;IM PLUS HA;IM PLUS LU;KI;KIN
  121D1 CUNEIFORM SIGN LAGAB TIMES :KU3;KUL;KUL PLUS HI PLUS A;LAGAB;LISH;LU;LUL;ME;ME PLUS EN;MUSH;NE;SHE PLUS SUM
  121DD CUNEIFORM SIGN LAGAB TIMES :SHITA PLUS GISH PLUS ERIN2;SHITA PLUS GISH TENU;SHU2;SHU2 PLUS SHU2;SUM
  121E2 CUNEIFORM SIGN LAGAB TIMES :TAG;TAK4;TE PLUS A PLUS SU PLUS NA;U;U PLUS A;U PLUS U PLUS U;U2 PLUS ASH;UD;USH
  121EB CUNEIFORM SIGN :LAGAB SQUARED;LAGAR
  121ED CUNEIFORM SIGN :LAGAR TIMES SHE;LAGAR TIMES SHE PLUS SUM;LAGAR GUNU;LAGAR GUNU OVER LAGAR GUNU SHE;LAHSHU;LAL
  121F3 CUNEIFORM SIGN :LAL TIMES LAL;LAM;LAM TIMES KUR;LAM TIMES KUR PLUS RU;LI;LIL;LIMMU2;LISH;LU;LU TIMES BAD;LU2
  121FE CUNEIFORM SIGN LU2 TIMES :AL;BAD;ESH2;ESH2 TENU;GAN2 TENU;HI TIMES BAD;IM;KAD2;KAD3
  12207 CUNEIFORM SIGN LU2 TIMES :KAD3 PLUS ASH;KI;LA PLUS ASH;LAGAB;ME PLUS EN;NE;NU;SI PLUS ASH;SIK2 PLUS BU;TUG2
  12211 CUNEIFORM SIGN LU2 :TENU;CROSSING LU2;OPPOSING LU2;SQUARED;SHESHIG
  12216 CUNEIFORM SIGN :LU3;LUGAL;LUGAL OVER LUGAL;LUGAL OPPOSING LUGAL
  1221A CUNEIFORM SIGN :LUGAL SHESHIG;LUH;LUL;LUM;LUM OVER LUM;LUM OVER LUM GAR OVER GAR;MA;MA TIMES TAK4
  12222 CUNEIFORM SIGN :MA GUNU;MA2;MAH;MAR;MASH;MASH2;ME;MES;MI;MIN;MU;MU OVER MU;MUG;MUG GUNU;MUNSUB;MURGU2;MUSH
  12233 CUNEIFORM SIGN MUSH :TIMES A;TIMES KUR;TIMES ZA;OVER MUSH;OVER MUSH TIMES A PLUS NA;CROSSING MUSH
  12239 CUNEIFORM SIGN :MUSH3;MUSH3 TIMES A;MUSH3 TIMES A PLUS DI;MUSH3 TIMES DI;MUSH3 GUNU;NA;NA2;NAGA;NAGA INVERTED
  12242 CUNEIFORM SIGN :NAGA TIMES SHU TENU;NAGA OPPOSING NAGA;NAGAR;NAM NUTILLU;NAM;NAM2;NE;NE TIMES A;NE TIMES UD
  1224B CUNEIFORM SIGN :NE SHESHIG;NI;NI TIMES E;NI2;NIM;NIM TIMES GAN2 TENU;NIM TIMES GAR PLUS GAN2 TENU;NINDA2
  12253 CUNEIFORM SIGN NINDA2 TIMES :AN;ASH;ASH PLUS ASH;GUD;ME PLUS GAN2 TENU
  12258 CUNEIFORM SIGN NINDA2 TIMES :NE;NUN;SHE;SHE PLUS A AN;SHE PLUS ASH;SHE PLUS ASH PLUS ASH;U2 PLUS ASH;USH
  12260 CUNEIFORM SIGN :NISAG;NU;NU11;NUN
  12264 CUNEIFORM SIGN NUN LAGAR TIMES :GAR;MASH;SAL;SAL OVER NUN LAGAR TIMES SAL;USH
  12269 CUNEIFORM SIGN :NUN TENU;NUN OVER NUN;NUN CROSSING NUN;NUN CROSSING NUN LAGAR OVER LAGAR;NUNUZ
  1226E CUNEIFORM SIGN NUNUZ AB2 TIMES :ASHGAB;BI;DUG;GUD;IGI GUNU;KAD3;LA;NE;SILA3;U2
  12278 CUNEIFORM SIGN :NUNUZ KISIM5 TIMES BI;NUNUZ KISIM5 TIMES BI U;PA;PAD;PAN;PAP;PESH2;PI
  12280 CUNEIFORM SIGN PI TIMES :A;AB;BI;BU;E;I;IB;U;U2
  12289 CUNEIFORM SIGN :PI CROSSING PI;PIRIG
  1228B CUNEIFORM SIGN PIRIG TIMES :KAL;UD;ZA
  1228E CUNEIFORM SIGN :PIRIG OPPOSING PIRIG;RA;RAB;RI;RU;SA;SAG NUTILLU;SAG
  12296 CUNEIFORM SIGN SAG TIMES :A;DU;DUB;HA;KAK;KUR;LUM;MI;NUN;SAL;SHID;TAB;U2;UB;UM;UR;USH
  122A7 CUNEIFORM SIGN :SAG OVER SAG;SAG GUNU;SAL;SAL LAGAB TIMES ASH2;SANGA2;SAR;SHA;SHA3
  122AF CUNEIFORM SIGN SHA3 TIMES :A;BAD;GISH;NE;SHU2;TUR;U;U PLUS A
  122B7 CUNEIFORM SIGN :SHA6;SHAB6;SHAR2;SHE;SHE HU
  122BC CUNEIFORM SIGN SHE OVER SHE :GAD OVER GAD GAR OVER GAR;TAB OVER TAB GAR OVER GAR
  122BE CUNEIFORM SIGN :SHEG9;SHEN;SHESH;SHESH2;SHESHLAM;SHID;SHID TIMES A;SHID TIMES IM;SHIM
  122C7 CUNEIFORM SIGN SHIM TIMES :A;BAL;BULUG;DIN;GAR;IGI;IGI GUNU;KUSHU2;LUL;MUG;SAL
  122D2 CUNEIFORM SIGN :SHINIG;SHIR;SHIR TENU
  122D5 CUNEIFORM SIGN :SHIR OVER SHIR BUR OVER BUR;SHITA;SHU;SHU OVER INVERTED SHU;SHU2;SHUBUR;SI;SI GUNU;SIG;SIG4
  122DF CUNEIFORM SIGN :SIG4 OVER SIG4 SHU2;SIK2;SILA3;SU;SU OVER SU;SUD;SUD2;SUHUR;SUM;SUMASH;SUR;SUR9;TA;TA ASTERISK
  122ED CUNEIFORM SIGN :TA TIMES HI;TA TIMES MI;TA GUNU;TAB;TAB OVER TAB NI OVER NI DISH OVER DISH;TAB SQUARED;TAG
  122F4 CUNEIFORM SIGN TAG TIMES :BI;GUD;SHE;SHU;TUG2;UD
  122FA CUNEIFORM SIGN :TAK4;TAR;TE;TE GUNU;TI;TI TENU;TIL;TIR;TIR TIMES TAK4
  12303 CUNEIFORM SIGN TIR OVER :TIR;TIR GAD OVER GAD GAR OVER GAR
  12305 CUNEIFORM SIGN :TU;TUG2;TUK;TUM;TUR;TUR OVER TUR ZA OVER ZA;U;U GUD;U U U;U OVER U PA OVER PA GAR OVER GAR
  1230F CUNEIFORM SIGN :U OVER U SUR OVER SUR;U OVER U U REVERSED OVER U REVERSED;U2;UB;UD;UD KUSHU2
  12315 CUNEIFORM SIGN UD TIMES :BAD;MI;U PLUS U PLUS U;U PLUS U PLUS U GUNU
  12319 CUNEIFORM SIGN :UD GUNU;UD SHESHIG;UD SHESHIG TIMES BAD;UDUG;UM
  1231E CUNEIFORM SIGN UM TIMES :LAGAB;ME PLUS DA;SHA3;U
  12322 CUNEIFORM SIGN :UMBIN;UMUM;UMUM TIMES KASKAL;UMUM TIMES PA;UN;UN GUNU;UR;UR CROSSING UR;UR SHESHIG;UR2
  1232C CUNEIFORM SIGN UR2 TIMES :A PLUS HA;A PLUS NA;AL;HA;NUN;U2;U2 PLUS ASH;U2 PLUS BI
  12334 CUNEIFORM SIGN :UR4;URI;URI3;URU
  12338 CUNEIFORM SIGN URU TIMES :A;ASHGAB;BAR;DUN
  1233C CUNEIFORM SIGN URU TIMES :GA;GAL;GAN2 TENU;GAR;GU;HA;IGI;IM;ISH;KI;LUM;MIN;PA;SHE;SIG4;TU;U PLUS GUD;UD;URUDA
  1234F CUNEIFORM SIGN :URUDA;URUDA TIMES U;USH;USH TIMES A;USH TIMES KU;USH TIMES KUR;USH TIMES TAK4;USHX;USH2;USHUMX
  12359 CUNEIFORM SIGN :UTUKI;UZ3;UZ3 TIMES KASKAL;UZU;ZA;ZA TENU;ZA SQUARED TIMES KUR;ZAG;ZAMX;ZE2;ZI;ZI OVER ZI
  12365 CUNEIFORM SIGN :ZI3;ZIB;ZIB KABA TENU;ZIG;ZIZ2;ZU;ZU5;ZU5 TIMES A;ZUBUR;ZUM;KAP ELAMITE;AB TIMES NUN
  12371 CUNEIFORM SIGN :AB2 TIMES A;AMAR TIMES KUG;DAG KISIM5 TIMES U2 PLUS MASH;DAG3;DISH PLUS SHU;DUB TIMES SHE
  12377 CUNEIFORM SIGN :EZEN TIMES GUD;EZEN TIMES SHE;GA2 TIMES AN PLUS KAK PLUS A;GA2 TIMES ASH2;GE22;GIG;HUSH
  1237E CUNEIFORM SIGN KA TIMES :ANSHE;ASH3;GISH;GUD;HI TIMES ASH2;LUM;PA;SHUL;TU;UR2
  12388 CUNEIFORM SIGN :LAGAB TIMES GI;LU2 SHESHIG TIMES BAD;LU2 TIMES ESH2 PLUS LAL
  1238B CUNEIFORM SIGN :LU2 TIMES SHU;MESH;MUSH3 TIMES ZA;NA4;NIN;NIN9;NINDA2 TIMES BAL;NINDA2 TIMES GI
  12393 CUNEIFORM SIGN :NU11 ROTATED NINETY DEGREES;PESH2 ASTERISK;PIR2;SAG TIMES IGI GUNU;TI2;UM TIMES ME;U U
  12400 CUNEIFORM NUMERIC SIGN :TWO ASH;THREE ASH;FOUR ASH;FIVE ASH;SIX ASH;SEVEN ASH
  12406 CUNEIFORM NUMERIC SIGN :EIGHT ASH;NINE ASH;THREE DISH;FOUR DISH;FIVE DISH;SIX DISH;SEVEN DISH;EIGHT DISH
  1240E CUNEIFORM NUMERIC SIGN :NINE DISH;FOUR U;FIVE U;SIX U;SEVEN U;EIGHT U;NINE U;ONE GESH2;TWO GESH2;THREE GESH2
  12418 CUNEIFORM NUMERIC SIGN :FOUR GESH2;FIVE GESH2;SIX GESH2;SEVEN GESH2;EIGHT GESH2;NINE GESH2;ONE GESHU;TWO GESHU
  12420 CUNEIFORM NUMERIC SIGN :THREE GESHU;FOUR GESHU;FIVE GESHU;TWO SHAR2;THREE SHAR2;THREE SHAR2 VARIANT FORM
  12426 CUNEIFORM NUMERIC SIGN :FOUR SHAR2;FIVE SHAR2;SIX SHAR2;SEVEN SHAR2;EIGHT SHAR2;NINE SHAR2
  1242C CUNEIFORM NUMERIC SIGN :ONE SHARU;TWO SHARU;THREE SHARU;THREE SHARU VARIANT FORM;FOUR SHARU;FIVE SHARU
  12432 CUNEIFORM NUMERIC SIGN SHAR2 TIMES GAL PLUS :DISH;MIN
  12434 CUNEIFORM NUMERIC SIGN :ONE BURU;TWO BURU;THREE BURU;THREE BURU VARIANT FORM;FOUR BURU;FIVE BURU
  1243A CUNEIFORM NUMERIC SIGN THREE VARIANT FORM :ESH16;ESH21
  1243C CUNEIFORM NUMERIC SIGN FOUR VARIANT FORM :LIMMU;LIMMU4;LIMMU A;LIMMU B
  12440 :CUNEIFORM NUMERIC SIGN SIX VARIANT FORM ASH9
  12441 CUNEIFORM NUMERIC SIGN SEVEN VARIANT FORM :IMIN3;IMIN A;IMIN B
  12444 CUNEIFORM NUMERIC SIGN EIGHT VARIANT FORM :USSU;USSU3
  12446 CUNEIFORM NUMERIC SIGN NINE VARIANT FORM :ILIMMU;ILIMMU3;ILIMMU4;ILIMMU A
  1244A CUNEIFORM NUMERIC SIGN :TWO ASH TENU;THREE ASH TENU;FOUR ASH TENU;FIVE ASH TENU;SIX ASH TENU;ONE BAN2;TWO BAN2
  12451 CUNEIFORM NUMERIC SIGN :THREE BAN2;FOUR BAN2;FOUR BAN2 VARIANT FORM;FIVE BAN2;FIVE BAN2 VARIANT FORM;NIGIDAMIN
  12457 CUNEIFORM NUMERIC SIGN :NIGIDAESH;ONE ESHE3;TWO ESHE3;ONE THIRD DISH;TWO THIRDS DISH;FIVE SIXTHS DISH
  1245D CUNEIFORM NUMERIC SIGN :ONE THIRD VARIANT FORM A;TWO THIRDS VARIANT FORM A;ONE EIGHTH ASH;ONE QUARTER ASH
  12461 CUNEIFORM NUMERIC SIGN :OLD ASSYRIAN ONE SIXTH;OLD ASSYRIAN ONE QUARTER;ONE QUARTER GUR;ONE HALF GUR
  12465 CUNEIFORM NUMERIC SIGN ELAMITE :ONE THIRD;TWO THIRDS;FORTY;FIFTY
  12469 CUNEIFORM NUMERIC SIGN :FOUR U VARIANT FORM;FIVE U VARIANT FORM
  1246B CUNEIFORM NUMERIC SIGN :SIX U VARIANT FORM;SEVEN U VARIANT FORM;EIGHT U VARIANT FORM;NINE U VARIANT FORM
  12470 CUNEIFORM PUNCTUATION SIGN :OLD ASSYRIAN WORD DIVIDER;VERTICAL COLON
  12472 CUNEIFORM PUNCTUATION SIGN DIAGONAL :COLON;TRICOLON;QUADCOLON
  12480 CUNEIFORM SIGN :AB TIMES NUN TENU;AB TIMES SHU2;AD TIMES ESH2;BAD TIMES DISH TENU
  12484 CUNEIFORM SIGN BAHAR2 TIMES :AB2;NI;ZA
  12487 CUNEIFORM SIGN :BU OVER BU TIMES NA2;DA TIMES TAK4;DAG TIMES KUR;DIM TIMES IGI;DIM TIMES U U U;DIM2 TIMES UD
  1248D CUNEIFORM SIGN DUG TIMES :ANSHE;ASH;ASH AT LEFT;DIN;DUN;ERIN2;GA;GI;GIR2 GUNU;GISH;HA;HI;IGI GUNU;KASKAL;KUR
  1249C CUNEIFORM SIGN DUG TIMES :KUSHU2;KUSHU2 PLUS KASKAL;LAK-020;LAM;LAM TIMES KUR;LUH PLUS GISH;MASH;MES;MI;NI;PI
  124A7 CUNEIFORM SIGN :DUG TIMES SHE;DUG TIMES SI GUNU;E2 TIMES KUR;E2 TIMES PAP;ERIN2 X;ESH2 CROSSING ESH2
  124AD CUNEIFORM SIGN EZEN SHESHIG TIMES :ASH;HI;IGI GUNU;LA;LAL;ME;MES;SU
  124B5 CUNEIFORM SIGN :EZEN TIMES SU;GA2 TIMES BAHAR2;GA2 TIMES DIM GUNU
  124B8 CUNEIFORM SIGN GA2 TIMES :DUG TIMES IGI GUNU;DUG TIMES KASKAL;EREN;GA;GAR PLUS DI;GAR PLUS NE;HA PLUS A
  124BF CUNEIFORM SIGN GA2 TIMES :KUSHU2 PLUS KASKAL;LAM;LAM TIMES KUR;LUH;MUSH;NE;NE PLUS E2;NE PLUS GI;SHIM;ZIZ2
  124C9 CUNEIFORM SIGN :GABA ROTATED NINETY DEGREES;GESHTIN TIMES U;GISH TIMES GISH CROSSING GISH
  124CC CUNEIFORM SIGN :GU2 TIMES IGI GUNU;GUD PLUS GISH TIMES TAK4;HA TENU GUNU;HI TIMES ASH OVER HI TIMES ASH
  124D0 CUNEIFORM SIGN KA TIMES :BU;KA;U U U;UR
  124D4 :CUNEIFORM SIGN LAGAB TIMES ZU OVER ZU
  124D5 CUNEIFORM SIGN LAK-:003;021;025;030;050;051;062;079 OVER LAK-079 GUNU;080;081 OVER LAK-081
  124DF CUNEIFORM SIGN LAK-:092;130;142;210;219;220;225;228;238;265;266;343;347;348;383;384;390;441;449
  124F2 CUNEIFORM SIGN LAK-449 TIMES :GU;IGI;PAP PLUS LU3;PAP PLUS PAP PLUS LU3;U2 PLUS BA
  124F7 CUNEIFORM SIGN LAK-:450;457;470;483;490;492;493;495;550;608;617
  12502 CUNEIFORM SIGN LAK-617 TIMES :ASH;BAD;DUN3 GUNU GUNU;KU3;LA;TAR;TE;U2;UD;URUDA
  1250C CUNEIFORM SIGN LAK-:636;648
  1250E CUNEIFORM SIGN LAK-648 TIMES :DUB;GA;IGI;IGI GUNU;NI;PAP PLUS PAP PLUS LU3;SHESH PLUS KI;UD;URUDA
  12517 CUNEIFORM SIGN :LAK-724;LAK-749;LU2 GUNU TIMES ASH
  1251A CUNEIFORM SIGN LU2 TIMES :DISH;HAL;PAP;PAP PLUS PAP PLUS LU3;TAK4
  1251F CUNEIFORM SIGN :MI PLUS ZA7;MUSH OVER MUSH TIMES GA;MUSH OVER MUSH TIMES KAK
  12522 CUNEIFORM SIGN NINDA2 TIMES :DIM GUNU;GISH;GUL;HI;KESH2;LAK-050;MASH;PAP PLUS PAP;U;U PLUS U;URUDA
  1252D CUNEIFORM SIGN :SAG GUNU TIMES HA;SAG TIMES EN;SAG TIMES SHE AT LEFT;SAG TIMES TAK4;SHA6 TENU;SHE OVER SHE
  12533 CUNEIFORM SIGN SHE PLUS :HUB2;NAM2;SAR
  12536 CUNEIFORM SIGN SHU2 PLUS :DUG TIMES NI;E2 TIMES AN
  12538 CUNEIFORM SIGN :SI TIMES TAK4;TAK4 PLUS SAG;TUM TIMES GAN2 TENU;TUM TIMES THREE DISH;UR2 INVERTED;UR2 TIMES UD
  1253E CUNEIFORM SIGN URU TIMES :DARA3;LAK-668;LU3
  12541 CUNEIFORM SIGN :ZA7;ZU OVER ZU PLUS SAR;ZU5 TIMES THREE DISH TENU
  12F90 CYPRO-MINOAN SIGN :CM001;CM002;CM004;CM005;CM006;CM007;CM008;CM009;CM010
  12F99 CYPRO-MINOAN SIGN :CM011;CM012;CM012B;CM013;CM015;CM017;CM019;CM021;CM023;CM024;CM025;CM026;CM027;CM028;CM029
  12FA8 CYPRO-MINOAN SIGN :CM030;CM033;CM034;CM035;CM036;CM037;CM038;CM039;CM040;CM041;CM044;CM046;CM047;CM049;CM050
  12FB7 CYPRO-MINOAN SIGN :CM051;CM052;CM053;CM054;CM055;CM056;CM058;CM059;CM060;CM061;CM062;CM063;CM064;CM066;CM067
  12FC6 CYPRO-MINOAN SIGN :CM068;CM069;CM070;CM071;CM072;CM073;CM074;CM075;CM075B;CM076;CM078;CM079;CM080;CM081;CM082
  12FD5 CYPRO-MINOAN SIGN :CM083;CM084;CM085;CM086;CM087;CM088;CM089;CM090;CM091;CM092;CM094;CM095;CM096;CM097;CM098
  12FE4 CYPRO-MINOAN SIGN :CM099;CM100;CM101;CM102;CM103;CM104;CM105;CM107;CM108;CM109;CM110;CM112;CM114;CM301;CM302
  13000 EGYPTIAN HIEROGLYPH :A001;A002;A003;A004;A005;A005A;A006;A006A;A006B;A007;A008
  1300B EGYPTIAN HIEROGLYPH :A009;A010;A011;A012;A013;A014;A014A;A015;A016;A017;A017A;A018;A019;A020;A021;A022;A023
  1301C EGYPTIAN HIEROGLYPH :A024;A025;A026;A027;A028;A029;A030;A031;A032;A032A;A033;A034;A035;A036;A037;A038;A039
  1302D EGYPTIAN HIEROGLYPH :A040;A040A;A041;A042;A042A;A043;A043A;A044;A045;A045A;A046;A047;A048;A049;A050;A051;A052
  1303E EGYPTIAN HIEROGLYPH :A053;A054;A055;A056;A057;A058;A059;A060;A061;A062;A063;A064;A065;A066;A067;A068;A069;A070
  13050 EGYPTIAN HIEROGLYPH :B001;B002;B003;B004;B005;B005A;B006;B007;B008;B009;C001;C002;C002A;C002B;C002C;C003;C004
  13061 EGYPTIAN HIEROGLYPH :C005;C006;C007;C008;C009;C010;C010A;C011;C012;C013;C014;C015;C016;C017;C018;C019;C020
  13072 EGYPTIAN HIEROGLYPH :C021;C022;C023;C024;D001;D002;D003;D004;D005;D006;D007;D008;D008A;D009;D010;D011;D012
  13083 EGYPTIAN HIEROGLYPH :D013;D014;D015;D016;D017;D018;D019;D020;D021;D022;D023;D024;D025;D026;D027;D027A;D028
  13094 EGYPTIAN HIEROGLYPH :D029;D030;D031;D031A;D032;D033;D034;D034A;D035;D036;D037;D038;D039;D040;D041;D042;D043
  130A5 EGYPTIAN HIEROGLYPH :D044;D045;D046;D046A;D047;D048;D048A;D049;D050;D050A;D050B;D050C;D050D;D050E;D050F;D050G
  130B5 EGYPTIAN HIEROGLYPH :D050H;D050I;D051;D052;D052A;D053;D054;D054A;D055;D056;D057;D058;D059;D060;D061;D062;D063
  130C6 EGYPTIAN HIEROGLYPH :D064;D065;D066;D067;D067A;D067B;D067C;D067D;D067E;D067F;D067G;D067H;E001;E002;E003;E004
  130D6 EGYPTIAN HIEROGLYPH :E005;E006;E007;E008;E008A;E009;E009A;E010;E011;E012;E013;E014;E015;E016;E016A;E017;E017A
  130E7 EGYPTIAN HIEROGLYPH :E018;E019;E020;E020A;E021;E022;E023;E024;E025;E026;E027;E028;E028A;E029;E030;E031;E032
  130F8 EGYPTIAN HIEROGLYPH :E033;E034;E034A;E036;E037;E038;F001;F001A;F002;F003;F004;F005;F006;F007;F008;F009;F010
  13109 EGYPTIAN HIEROGLYPH :F011;F012;F013;F013A;F014;F015;F016;F017;F018;F019;F020;F021;F021A;F022;F023;F024;F025
  1311A EGYPTIAN HIEROGLYPH :F026;F027;F028;F029;F030;F031;F031A;F032;F033;F034;F035;F036;F037;F037A;F038;F038A;F039
  1312B EGYPTIAN HIEROGLYPH :F040;F041;F042;F043;F044;F045;F045A;F046;F046A;F047;F047A;F048;F049;F050;F051;F051A;F051B
  1313C EGYPTIAN HIEROGLYPH :F051C;F052;F053;G001;G002;G003;G004;G005;G006;G006A;G007;G007A;G007B;G008;G009;G010;G011
  1314D EGYPTIAN HIEROGLYPH :G011A;G012;G013;G014;G015;G016;G017;G018;G019;G020;G020A;G021;G022;G023;G024;G025;G026
  1315E EGYPTIAN HIEROGLYPH :G026A;G027;G028;G029;G030;G031;G032;G033;G034;G035;G036;G036A;G037;G037A;G038;G039;G040
  1316F EGYPTIAN HIEROGLYPH :G041;G042;G043;G043A;G044;G045;G045A;G046;G047;G048;G049;G050;G051;G052;G053;G054;H001
  13180 EGYPTIAN HIEROGLYPH :H002;H003;H004;H005;H006;H006A;H007;H008;I001;I002;I003;I004;I005;I005A;I006;I007;I008
  13191 EGYPTIAN HIEROGLYPH :I009;I009A;I010;I010A;I011;I011A;I012;I013;I014;I015;K001;K002;K003;K004;K005;K006;K007
  131A2 EGYPTIAN HIEROGLYPH :K008;L001;L002;L002A;L003;L004;L005;L006;L006A;L007;L008;M001;M001A;M001B;M002;M003;M003A
  131B3 EGYPTIAN HIEROGLYPH :M004;M005;M006;M007;M008;M009;M010;M010A;M011;M012;M012A;M012B;M012C;M012D;M012E;M012F
  131C3 EGYPTIAN HIEROGLYPH :M012G;M012H;M013;M014;M015;M015A;M016;M016A;M017;M017A;M018;M019;M020;M021;M022;M022A
  131D3 EGYPTIAN HIEROGLYPH :M023;M024;M024A;M025;M026;M027;M028;M028A;M029;M030;M031;M031A;M032;M033;M033A;M033B
  131E3 EGYPTIAN HIEROGLYPH :M034;M035;M036;M037;M038;M039;M040;M040A;M041;M042;M043;M044;N001;N002;N003;N004;N005
  131F4 EGYPTIAN HIEROGLYPH :N006;N007;N008;N009;N010;N011;N012;N013;N014;N015;N016;N017;N018;N018A;N018B;N019;N020
  13205 EGYPTIAN HIEROGLYPH :N021;N022;N023;N024;N025;N025A;N026;N027;N028;N029;N030;N031;N032;N033;N033A;N034;N034A
  13216 EGYPTIAN HIEROGLYPH :N035;N035A;N036;N037;N037A;N038;N039;N040;N041;N042;NL001;NL002;NL003;NL004;NL005;NL005A
  13226 EGYPTIAN HIEROGLYPH :NL006;NL007;NL008;NL009;NL010;NL011;NL012;NL013;NL014;NL015;NL016;NL017;NL017A;NL018
  13234 EGYPTIAN HIEROGLYPH :NL019;NL020;NU001;NU002;NU003;NU004;NU005;NU006;NU007;NU008;NU009;NU010;NU010A;NU011
  13242 EGYPTIAN HIEROGLYPH :NU011A;NU012;NU013;NU014;NU015;NU016;NU017;NU018;NU018A;NU019;NU020;NU021;NU022;NU022A
  13250 EGYPTIAN HIEROGLYPH :O001;O001A;O002;O003;O004;O005;O005A;O006;O006A;O006B;O006C;O006D;O006E;O006F;O007;O008
  13260 EGYPTIAN HIEROGLYPH :O009;O010;O010A;O010B;O010C;O011;O012;O013;O014;O015;O016;O017;O018;O019;O019A;O020;O020A
  13271 EGYPTIAN HIEROGLYPH :O021;O022;O023;O024;O024A;O025;O025A;O026;O027;O028;O029;O029A;O030;O030A;O031;O032;O033
  13282 EGYPTIAN HIEROGLYPH :O033A;O034;O035;O036;O036A;O036B;O036C;O036D;O037;O038;O039;O040;O041;O042;O043;O044;O045
  13293 EGYPTIAN HIEROGLYPH :O046;O047;O048;O049;O050;O050A;O050B;O051;P001;P001A;P002;P003;P003A;P004;P005;P006;P007
  132A4 EGYPTIAN HIEROGLYPH :P008;P009;P010;P011;Q001;Q002;Q003;Q004;Q005;Q006;Q007;R001;R002;R002A;R003;R003A;R003B
  132B5 EGYPTIAN HIEROGLYPH :R004;R005;R006;R007;R008;R009;R010;R010A;R011;R012;R013;R014;R015;R016;R016A;R017;R018
  132C6 EGYPTIAN HIEROGLYPH :R019;R020;R021;R022;R023;R024;R025;R026;R027;R028;R029;S001;S002;S002A;S003;S004;S005
  132D7 EGYPTIAN HIEROGLYPH :S006;S006A;S007;S008;S009;S010;S011;S012;S013;S014;S014A;S014B;S015;S016;S017;S017A;S018
  132E8 EGYPTIAN HIEROGLYPH :S019;S020;S021;S022;S023;S024;S025;S026;S026A;S026B;S027;S028;S029;S030;S031;S032;S033
  132F9 EGYPTIAN HIEROGLYPH :S034;S035;S035A;S036;S037;S038;S039;S040;S041;S042;S043;S044;S045;S046;T001;T002;T003
  1330A EGYPTIAN HIEROGLYPH :T003A;T004;T005;T006;T007;T007A;T008;T008A;T009;T009A;T010;T011;T011A;T012;T013;T014;T015
  1331B EGYPTIAN HIEROGLYPH :T016;T016A;T017;T018;T019;T020;T021;T022;T023;T024;T025;T026;T027;T028;T029;T030;T031
  1332C EGYPTIAN HIEROGLYPH :T032;T032A;T033;T033A;T034;T035;T036;U001;U002;U003;U004;U005;U006;U006A;U006B;U007;U008
  1333D EGYPTIAN HIEROGLYPH :U009;U010;U011;U012;U013;U014;U015;U016;U017;U018;U019;U020;U021;U022;U023;U023A;U024
  1334E EGYPTIAN HIEROGLYPH :U025;U026;U027;U028;U029;U029A;U030;U031;U032;U032A;U033;U034;U035;U036;U037;U038;U039
  1335F EGYPTIAN HIEROGLYPH :U040;U041;U042;V001;V001A;V001B;V001C;V001D;V001E;V001F;V001G;V001H;V001I;V002;V002A;V003
  1336F EGYPTIAN HIEROGLYPH :V004;V005;V006;V007;V007A;V007B;V008;V009;V010;V011;V011A;V011B;V011C;V012;V012A;V012B
  1337F EGYPTIAN HIEROGLYPH :V013;V014;V015;V016;V017;V018;V019;V020;V020A;V020B;V020C;V020D;V020E;V020F;V020G;V020H
  1338F EGYPTIAN HIEROGLYPH :V020I;V020J;V020K;V020L;V021;V022;V023;V023A;V024;V025;V026;V027;V028;V028A;V029;V029A
  1339F EGYPTIAN HIEROGLYPH :V030;V030A;V031;V031A;V032;V033;V033A;V034;V035;V036;V037;V037A;V038;V039;V040;V040A;W001
  133B0 EGYPTIAN HIEROGLYPH :W002;W003;W003A;W004;W005;W006;W007;W008;W009;W009A;W010;W010A;W011;W012;W013;W014;W014A
  133C1 EGYPTIAN HIEROGLYPH :W015;W016;W017;W017A;W018;W018A;W019;W020;W021;W022;W023;W024;W024A;W025;X001;X002;X003
  133D2 EGYPTIAN HIEROGLYPH :X004;X004A;X004B;X005;X006;X006A;X007;X008;X008A;Y001;Y001A;Y002;Y003;Y004;Y005;Y006;Y007
  133E3 EGYPTIAN HIEROGLYPH :Y008;Z001;Z002;Z002A;Z002B;Z002C;Z002D;Z003;Z003A;Z003B;Z004;Z004A;Z005;Z005A;Z006;Z007
  133F3 EGYPTIAN HIEROGLYPH :Z008;Z009;Z010;Z011;Z012;Z013;Z014;Z015;Z015A;Z015B;Z015C;Z015D;Z015E;Z015F;Z015G;Z015H
  13403 EGYPTIAN HIEROGLYPH :Z015I;Z016;Z016A;Z016B;Z016C;Z016D;Z016E;Z016F;Z016G;Z016H;AA001;AA002;AA003;AA004;AA005
  13412 EGYPTIAN HIEROGLYPH :AA006;AA007;AA007A;AA007B;AA008;AA009;AA010;AA011;AA012;AA013;AA014;AA015;AA016;AA017
  13420 EGYPTIAN HIEROGLYPH :AA018;AA019;AA020;AA021;AA022;AA023;AA024;AA025;AA026;AA027;AA028;AA029;AA030;AA031;AA032
  13430 EGYPTIAN HIEROGLYPH :VERTICAL JOINER;HORIZONTAL JOINER
  13432 EGYPTIAN HIEROGLYPH INSERT AT :TOP START;BOTTOM START;TOP END;BOTTOM END
  13436 EGYPTIAN HIEROGLYPH :OVERLAY MIDDLE;BEGIN SEGMENT;END SEGMENT
  14400 ANATOLIAN HIEROGLYPH :A001;A002;A003
  14403 ANATOLIAN HIEROGLYPH :A004;A005;A006;A007;A008;A009;A010;A010A;A011;A012;A013;A014;A015;A016;A017;A018;A019
  14414 ANATOLIAN HIEROGLYPH :A020;A021;A022;A023;A024;A025;A026;A026A;A027;A028;A029;A030;A031;A032;A033;A034;A035
  14425 ANATOLIAN HIEROGLYPH :A036;A037;A038;A039;A039A;A040;A041;A041A;A042;A043;A044;A045;A045A;A046;A046A;A046B
  14435 ANATOLIAN HIEROGLYPH :A047;A048;A049;A050;A051;A052;A053;A054;A055;A056;A057;A058;A059;A060;A061;A062;A063
  14446 ANATOLIAN HIEROGLYPH :A064;A065;A066;A066A;A066B;A066C;A067;A068;A069;A070;A071;A072;A073;A074;A075;A076;A077
  14457 ANATOLIAN HIEROGLYPH :A078;A079;A080;A081;A082;A083;A084;A085;A086;A087;A088;A089;A090;A091;A092;A093;A094
  14468 ANATOLIAN HIEROGLYPH :A095;A096;A097;A097A;A098;A098A;A099;A100;A100A;A101;A101A;A102;A102A;A103;A104;A104A
  14478 ANATOLIAN HIEROGLYPH :A104B;A104C;A105;A105A;A105B;A106;A107;A107A;A107B;A107C;A108;A109;A110;A110A;A110B
  14487 ANATOLIAN HIEROGLYPH :A111;A112;A113;A114;A115;A115A;A116;A117;A118;A119;A120;A121;A122;A123;A124;A125;A125A
  14498 ANATOLIAN HIEROGLYPH :A126;A127;A128;A129;A130;A131;A132;A133;A134;A135;A135A;A136;A137;A138;A139;A140;A141
  144A9 ANATOLIAN HIEROGLYPH :A142;A143;A144;A145;A146;A147;A148;A149;A150;A151;A152;A153;A154;A155;A156;A157;A158
  144BA ANATOLIAN HIEROGLYPH :A159;A160;A161;A162;A163;A164;A165;A166;A167;A168;A169;A170;A171;A172;A173;A174;A175
  144CB ANATOLIAN HIEROGLYPH :A176;A177;A178;A179;A180;A181;A182;A183;A184;A185;A186;A187;A188;A189;A190;A191;A192
  144DC ANATOLIAN HIEROGLYPH :A193;A194;A195;A196;A197;A198;A199;A200;A201;A202;A202A;A202B;A203;A204;A205;A206;A207
  144ED ANATOLIAN HIEROGLYPH :A207A;A208;A209;A209A;A210;A211;A212;A213;A214;A215;A215A;A216;A216A;A217;A218;A219;A220
  144FE ANATOLIAN HIEROGLYPH :A221;A222;A223;A224;A225;A226;A227;A227A;A228;A229;A230;A231;A232;A233;A234;A235;A236
  1450F ANATOLIAN HIEROGLYPH :A237;A238;A239;A240;A241;A242;A243;A244;A245;A246;A247;A248;A249;A250;A251;A252;A253
  14520 ANATOLIAN HIEROGLYPH :A254;A255;A256;A257;A258;A259;A260;A261;A262;A263;A264;A265;A266;A267;A267A;A268;A269
  14531 ANATOLIAN HIEROGLYPH :A270;A271;A272;A273;A274;A275;A276;A277;A278;A279;A280;A281;A282;A283;A284;A285;A286
  14542 ANATOLIAN HIEROGLYPH :A287;A288;A289;A289A;A290;A291;A292;A293;A294;A294A;A295;A296;A297;A298;A299;A299A;A300
  14553 ANATOLIAN HIEROGLYPH :A301;A302;A303;A304;A305;A306;A307;A308;A309;A309A;A310;A311;A312;A313;A314;A315;A316
  14564 ANATOLIAN HIEROGLYPH :A317;A318;A319;A320;A321;A322;A323;A324;A325;A326;A327;A328;A329;A329A;A330;A331;A332A
  14575 ANATOLIAN HIEROGLYPH :A332B;A332C;A333;A334;A335;A336;A336A;A336B;A336C;A337;A338;A339;A340;A341;A342;A343
  14585 ANATOLIAN HIEROGLYPH :A344;A345;A346;A347;A348;A349;A350;A351;A352;A353;A354;A355;A356;A357;A358;A359;A359A
  14596 ANATOLIAN HIEROGLYPH :A360;A361;A362;A363;A364;A364A;A365;A366;A367;A368;A368A;A369;A370;A371;A371A;A372;A373
  145A7 ANATOLIAN HIEROGLYPH :A374;A375;A376;A377;A378;A379;A380;A381;A381A;A382;A383 RA OR RI;A383A;A384;A385;A386
  145B6 ANATOLIAN HIEROGLYPH :A386A;A387;A388;A389;A390;A391;A392;A393 EIGHT;A394;A395;A396;A397;A398;A399;A400;A401
  145C6 ANATOLIAN HIEROGLYPH :A402;A403;A404;A405;A406;A407;A408;A409;A410 BEGIN LOGOGRAM MARK;A410A END LOGOGRAM MARK
  145D0 ANATOLIAN HIEROGLYPH :A411;A412;A413;A414;A415;A416;A417;A418;A419;A420;A421;A422;A423;A424;A425;A426;A427
  145E1 ANATOLIAN HIEROGLYPH :A428;A429;A430;A431;A432;A433;A434;A435;A436;A437;A438;A439;A440;A441;A442;A443;A444
  145F2 ANATOLIAN HIEROGLYPH :A445;A446;A447;A448;A449;A450;A450A;A451;A452;A453;A454;A455;A456;A457;A457A;A458;A459
  14603 ANATOLIAN HIEROGLYPH :A460;A461;A462;A463;A464;A465;A466;A467;A468;A469;A470;A471;A472;A473;A474;A475;A476
  14614 ANATOLIAN HIEROGLYPH :A477;A478;A479;A480;A481;A482;A483;A484;A485;A486;A487;A488;A489;A490;A491;A492;A493
  14625 ANATOLIAN HIEROGLYPH :A494;A495;A496;A497;A501;A502;A503;A504;A505;A506;A507;A508;A509;A510;A511;A512;A513
  14636 ANATOLIAN HIEROGLYPH :A514;A515;A516;A517;A518;A519;A520;A521;A522;A523;A524;A525;A526;A527;A528;A529;A530
  16800 BAMUM LETTER PHASE-A :NGKUE MFON;GBIEE FON;PON MFON PIPAEMGBIEE;PON MFON PIPAEMBA
  16804 BAMUM LETTER PHASE-A :NAA MFON;SHUENSHUET;TITA MFON;NZA MFON;SHINDA PA NJI;PON PA NJI PIPAEMGBIEE
  1680A BAMUM LETTER PHASE-A :PON PA NJI PIPAEMBA;MAEMBGBIEE;TU MAEMBA;NGANGU;MAEMVEUX;MANSUAE;MVEUAENGAM
  16811 BAMUM LETTER PHASE-A :SEUNYAM;NTOQPEN;KEUKEUTNDA;NKINDI;SUU;NGKUENZEUM;LAPAQ;LET KUT;NTAP MFAA;MAEKEUP
  1681B BAMUM LETTER PHASE-A :PASHAE;GHEUAERAE;PAMSHAE;MON NGGEUAET;NZUN MEUT;U YUQ NAE;GHEUAEGHEUAE;NTAP NTAA;SISA
  16824 BAMUM LETTER PHASE-A :MGBASA;MEUNJOMNDEUQ;MOOMPUQ;KAFA;PA LEERAEWA;NDA LEERAEWA;PET;MAEMKPEN;NIKA;PUP;TUAEP
  1682F BAMUM LETTER PHASE-A :LUAEP;SONJAM;TEUTEUWEN;MAENYI;KET;NDAANGGEUAET;KUOQ;MOOMEUT;SHUM;LOMMAE;FIRI;ROM;KPOQ
  1683C BAMUM LETTER PHASE-A :SOQ;MAP PIEET;SHIRAE;NTAP;SHOQ NSHUT YUM;NYIT MONGKEUAEQ;PAARAE;NKAARAE;UNKNOWN;NGGEN
  16846 BAMUM LETTER PHASE-A :MAESI;NJAM;MBANYI;NYET;TEUAEN;SOT;PAAM;NSHIEE;MAEM;NYI;KAQ;NSHA;VEE;LU;NEN;NAQ;MBAQ
  16857 BAMUM LETTER PHASE-B :NSHUET;TU MAEMGBIEE;SIEE
  1685A BAMUM LETTER PHASE-B :SET TU;LOM NTEUM;MBA MAELEE;KIEEM;YEURAE;MBAARAE;KAM;PEESHI;YAFU LEERAEWA;LAM NSHUT NYAM
  16864 BAMUM LETTER PHASE-B :NTIEE SHEUOQ;NDU NJAA;GHEUGHEUAEM;PIT;TU NSIEE;SHET NJAQ;SHEUAEQTU;MFON TEUAEQ
  1686C BAMUM LETTER PHASE-B :MBIT MBAAKET;NYI NTEUM;KEUPUQ;GHEUGHEN;KEUYEUX;LAANAE;PARUM;VEUM;NGKINDI MVOP;NGGEU MBU
  16876 BAMUM LETTER PHASE-B :WUAET;SAKEUAE;TAAM;MEUQ;NGGUOQ;NGGUOQ LARGE;MFIYAQ;SUE;MBEURI;MONTIEEN;NYAEMAE;PUNGAAM
  16882 BAMUM LETTER PHASE-B :MEUT NGGEET;FEUX;MBUOQ;FEE;KEUAEM;MA NJEUAENA;MA NJUQA;LET;NGGAAM;NSEN;MA;KIQ;NGOM
  1688F BAMUM LETTER PHASE-C :NGKUE MAEMBA;NZA;YUM;WANGKUOQ;NGGEN;NDEUAEREE;NGKAQ;GHARAE;MBEEKEET
  16898 BAMUM LETTER PHASE-C :GBAYI;NYIR MKPARAQ MEUN;NTU MBIT;MBEUM;PIRIEEN;NDOMBU;MBAA CABBAGE-TREE;KEUSHEUAEP
  168A0 BAMUM LETTER PHASE-C :GHAP;KEUKAQ;YU MUOMAE;NZEUM;MBUE;NSEUAEN;MBIT;YEUQ;KPARAQ;KAA;SEUX;NDIDA;TAASHAE
  168AD BAMUM LETTER PHASE-C :NJUEQ;TITA YUE;SUAET;NGGUAEN NYAM;VEUX;NANSANAQ;MA KEUAERI;NTAA;NGGUON;LAP;MBIRIEEN
  168B8 BAMUM LETTER PHASE-C :MGBASAQ;NTEUNGBA;TEUTEUX;NGGUM;FUE;NDEUT;NSA;NSHAQ;BUNG;VEUAEPEN;MBERAE;RU;NJAEM;LAM
  168C6 BAMUM LETTER PHASE-C :TITUAEP;NSUOT NGOM;NJEEEE;KET;NGGU;MAESI;MBUAEM;LU;KUT;NJAM;NGOM;WUP;NGGUEET;NSOM;NTEN
  168D5 BAMUM LETTER PHASE-C :KUOP NKAARAE;NSUN;NDAM;MA NSIEE;YAA;NDAP;SHUEQ;SETFON;MBI;MAEMBA;MBANYI;KEUSEUX;MBEUX
  168E2 BAMUM LETTER PHASE-C :KEUM;MBAA PICKET;YUWOQ;NJEUX;MIEE;MUAE;SHIQ;KEN LAW;KEN FATIGUE;NGAQ;NAQ;LIQ;PIN;PEN;TET
  168F1 BAMUM LETTER PHASE-D :MBUO;WAP;NJI;MFON;NJIEE;LIEE;NJEUT;NSHEE;NGGAAMAE;NYAM;WUAEN;NGKUN;SHEE;NGKAP;KEUAETMEUN
  16900 BAMUM LETTER PHASE-D :TEUT;SHEUAE;NJAP;SUE;KET;YAEMMAE;KUOM;SAP;MFEUT;NDEUX;MALEERI;MEUT;SEUAEQ;YEN;NJEUAEM
  1690F BAMUM LETTER PHASE-D :KEUOT MBUAE;NGKEURI;TU;GHAA;NGKYEE;FEUFEUAET;NDEE;MGBOFUM;LEUAEP;NDON;MONI;MGBEUN;PUUT
  1691C BAMUM LETTER PHASE-D :MGBIEE;MFO;LUM;NSIEEP;MBAA;KWAET;NYET;TEUAEN;SOT;YUWOQ;KEUM;RAEM;TEEEE;NGKEUAEQ;MFEUAE
  1692B BAMUM LETTER PHASE-D :NSIEET;KEUP;PIP;PEUTAE;NYUE;LET;NGGAAM;MFIEE;NGGWAEN;YUOM;PAP;YUOP;NDAM;NTEUM;SUAE;KUN
  1693B BAMUM LETTER PHASE-D :NGGEUX;NGKIEE;TUOT;MEUN;KUQ;NSUM;TEUN;MAENJET;NGGAP;LEUM;NGGUOM;NSHUT;NJUEQ;GHEUAE;KU
  1694A BAMUM LETTER PHASE-D :REN OLD;TAE;TOQ;NYI;RII;LEEEE;MEEEE;M;SUU;MU;SHII;SHEUX;KYEE;NU;SHU;NTEE;PEE;NI;SHOQ;PUQ
  1695E BAMUM LETTER PHASE-:D MVOP;D LOQ;D REN MUCH;D TI;D NTUU;D MBAA SEVEN;D SAQ;D FAA;E NDAP;E TOON
  16968 BAMUM LETTER PHASE-E :MBEUM;LAP;VOM;LOON;PAA;SOM;RAQ;NSHUOP;NDUN;PUAE;TAM;NGKA;KPEUX;WUO;SEE;NGGEUAET;PAAM
  16979 BAMUM LETTER PHASE-E :TOO;KUOP;LOM;NSHIEE;NGOP;MAEM;NGKEUX;NGOQ;NSHUE;RIMGBA;NJEUX;PEEM;SAA;NGGURAE;MGBA;GHEUX
  16989 BAMUM LETTER PHASE-E :NGKEUAEM;NJAEMLI;MAP;LOOT;NGGEEEE;NDIQ;TAEN NTEUM;SET;PUM;NDAA SOFTNESS;NGGUAESHAE NYAM
  16994 BAMUM LETTER PHASE-E :YIEE;GHEUN;TUAE;YEUAE;PO;TUMAE;KEUAE;SUAEN;TEUAEQ;VEUAE;WEUX;LAAM;PU;TAAQ
  169A2 BAMUM LETTER PHASE-E :GHAAMAE;NGEUREUT;SHEUAEQ;MGBEN;MBEE;NZAQ;NKOM;GBET;TUM;KUET;YAP;NYI CLEAVER;YIT;MFEUQ
  169B0 BAMUM LETTER PHASE-E :NDIAQ;PIEEQ;YUEQ;LEUAEM;FUE;GBEUX;NGKUP;KET;MAE;NGKAAMI;GHET;FA;NTUM;PEUT;YEUM;NGGEUAE
  169C0 BAMUM LETTER PHASE-E :NYI BETWEEN;NZUQ;POON;MIEE;FUET;NAE;MUAE;GHEUAE;FU I;MVI;PUAQ;NGKUM;KUT;PIET;NTAP;YEUAET
  169D0 BAMUM LETTER PHASE-E :NGGUP;PA PEOPLE;FU CALL;FOM;NJEE;A;TOQ;O;I;LAQ;PA PLURAL;TAA;TAQ;NDAA MY HOUSE;SHIQ;YEUX
  169E0 BAMUM LETTER PHASE-E :NGUAE;YUAEN;YOQ SWIMMING;YOQ COVER;YUQ;YUN;KEUX;PEUX;NJEE EPOCH;PUE;WUE;FEE;VEE;LU;MI
  169EF BAMUM LETTER PHASE-E :REUX;RAE;NGUAET;NGA;SHO;SHOQ;FU REMEDY;NA;PI;LOQ;KO;MEN;MA;MAQ;TEU;KI;MON;TEN;FAQ;GHOM
  16A03 BAMUM LETTER PHASE-F :KA;U;KU;EE;REE;TAE;NYI;LA;RII;RIEE;MEEEE;TAA;NDAA
  16A10 BAMUM LETTER PHASE-F :NJAEM;M;SUU;SHII;SI;SEUX;KYEE;KET;NUAE;NU;NJUAE;YOQ;SHU;YA;NSHA;PEUX;NTEE;WUE;PEE;RU;NI
  16A25 BAMUM LETTER PHASE-F :REUX;KEN;NGKWAEN;NGGA;SHO;PUAE;FOM;WA;LI;LOQ;KO;MBEN;REN;MA;MO;MBAA;TET;KPA;SAMBA;VUEQ
  16A40 MRO LETTER :TA;NGI;YO;MIM
  16A44 MRO LETTER :BA;DA;A;PHI;KHAI;HAO;DAI;CHU;KEAAE;OL;MAEM;NIN;PA;OO;O;RO;SHI;THEA;EA;WA;E;KO;LAN;LA;HAI;RI;TEK
  16A60 MRO DIGIT :ZERO;ONE;TWO;THREE;FOUR;FIVE;SIX;SEVEN;EIGHT;NINE
  16A6E MRO :DANDA;DOUBLE DANDA
  16A70 TANGSA LETTER :OZ;OC;OQ;OX;AZ;AC
  16A76 TANGSA LETTER :AQ;AX;VZ;VC;VQ;VX;EZ;EC;EQ;EX;IZ;IC;IQ;IX;UZ;UC;UQ;UX;AWZ;AWC;AWQ;AWX;UIZ;UIC;UIQ;UIX;FINAL NG
  16A91 TANGSA LETTER :LONG UEX;SHORT UEZ;SHORT AWX;UEC;UEZ;UEQ;UEX;UIUZ;UIUC;UIUQ;UIUX;MZ;MC;MQ;MX;KA;KHA;GA;NGA
  16AA4 TANGSA LETTER :SA;YA;WA;PA;NYA;PHA;BA;MA;NA;HA;LA;HTA;TA;DA;RA;NHA;SHA;CA;TSA;GHA;HTTA;THA;XA;FA;DHA;CHA;ZA
  16AC0 TANGSA DIGIT :ZERO;ONE;TWO;THREE;FOUR;FIVE;SIX;SEVEN;EIGHT;NINE
  16AD0 BASSA VAH LETTER :ENNI;KA;SE
  16AD3 BASSA VAH LETTER :FA;MBE;YIE;GAH;DHII;KPAH;JO;HWAH;WA;ZO;GBU;DO;CE;UWU;TO;BA;VU;YEIN;PA;WADDA;A;O;OO;U;EE;E;I
  16AF0 BASSA VAH COMBINING :HIGH TONE;LOW TONE;MID TONE;LOW-MID TONE;HIGH-LOW TONE
  16AF5 :BASSA VAH FULL STOP
  16B00 PAHAWH HMONG VOWEL :KEEB;KEEV;KIB;KIV;KAUB;KAUV;KUB;KUV;KEB
  16B09 PAHAWH HMONG VOWEL :KEV;KAIB;KAIV;KOOB;KOOV;KAWB;KAWV;KUAB;KUAV;KOB;KOV;KIAB;KIAV;KAB;KAV;KWB;KWV;KAAB;KAAV
  16B1C PAHAWH HMONG CONSONANT :VAU;NTSAU
  16B1E PAHAWH HMONG CONSONANT :LAU;HAU;NLAU;RAU;NKAU;QHAU;YAU;HLAU;MAU;CHAU;NCHAU;HNAU;PLHAU;NTHAU;NAU;AU;XAU;CAU
  16B30 PAHAWH HMONG MARK CIM :TUB;SO;KES;KHAV;SUAM;HOM;TAUM
  16B37 PAHAWH HMONG SIGN :VOS THOM;VOS TSHAB CEEB;CIM CHEEM;VOS THIAB;VOS FEEM;XYEEM NTXIV
  16B3D PAHAWH HMONG SIGN :XYEEM RHO;XYEEM TOV;XYEEM FAIB;VOS SEEV;MEEJ SUAB;VOS NRUA;IB YAM;XAUS;CIM TSOV ROG
  16B50 PAHAWH HMONG DIGIT :ZERO;ONE;TWO;THREE;FOUR;FIVE;SIX;SEVEN;EIGHT;NINE
  16B5B PAHAWH HMONG NUMBER :TENS;HUNDREDS;TEN THOUSANDS;MILLIONS;HUNDRED MILLIONS;TEN BILLIONS;TRILLIONS
  16B63 :PAHAWH HMONG SIGN VOS LUB
  16B64 PAHAWH HMONG SIGN :XYOO;HLI;THIRD-STAGE HLI;ZWJ THAJ;HNUB;NQIG;XIAB;NTUJ;AV;TXHEEJ CEEV;MEEJ TSEEB;TAU;LOS;MUS
  16B72 PAHAWH HMONG SIGN CIM :HAIS LUS NTOG NTOG;CUAM TSHOOJ;TXWV;TXWV CHWV;PUB DAWB;NRES TOS
  16B7D :PAHAWH HMONG CLAN SIGN TSHEEJ
  16B7E PAHAWH HMONG CLAN SIGN :YEEG;LIS;LAUJ;XYOOJ;KOO;HAWJ;MUAS;THOJ;TSAB;PHAB;KHAB;HAM;VAJ;FAJ;YAJ;TSWB;KWM;VWJ
  16E40 MEDEFAIDRIN CAPITAL LETTER :M;S;V;W;ATIU;Z;KP;P;T;G;F;I;K;A;J;E;B;C;U;YU;L;Q;HP;NY;X;D;OE;N;R;O;AI;Y
  16E60 MEDEFAIDRIN SMALL LETTER :M;S;V;W;ATIU;Z;KP;P;T;G;F;I;K;A;J;E;B;C;U;YU;L;Q;HP;NY;X;D;OE;N;R;O;AI;Y
  16E80 MEDEFAIDRIN DIGIT :ZERO;ONE;TWO;THREE;FOUR;FIVE;SIX;SEVEN;EIGHT;NINE
  16E8A MEDEFAIDRIN NUMBER :TEN;ELEVEN;TWELVE;THIRTEEN;FOURTEEN;FIFTEEN;SIXTEEN;SEVENTEEN;EIGHTEEN;NINETEEN
  16E94 MEDEFAIDRIN DIGIT :ONE ALTERNATE FORM;TWO ALTERNATE FORM;THREE ALTERNATE FORM
  16E97 MEDEFAIDRIN :COMMA;FULL STOP;SYMBOL AIVA;EXCLAMATION OH
  16F00 MIAO LETTER :PA;BA;YI PA;PLA;MA;MHA;ARCHAIC MA;FA;VA;VFA;TA;DA;YI TTA;YI TA;TTA;DDA;NA
  16F11 MIAO LETTER :NHA;YI NNA;ARCHAIC NA;NNA;NNHA;LA;LYA;LHA;LHYA;TLHA;DLHA;TLHYA;DLHYA;KA;GA;YI KA;QA;QGA;NGA;NGHA
  16F25 MIAO LETTER :ARCHAIC NGA;HA;XA;GHA;GHHA;TSSA;DZZA;NYA;NYHA;TSHA;DZHA;YI TSHA;YI DZHA;REFORMED TSHA;SHA;SSA;ZHA
  16F36 MIAO LETTER :ZSHA;TSA;DZA;YI TSA;SA;ZA;ZSA;ZZA;ZZSA;ARCHAIC ZZA;ZZYA;ZZSYA;WA;AH;HHA;BRI;SYI;DZYI;TE;TSE;RTE
  16F4F MIAO :SIGN CONSONANT MODIFIER BAR;LETTER NASALIZATION;SIGN ASPIRATION
  16F52 MIAO SIGN REFORMED :VOICING;ASPIRATION
  16F54 MIAO VOWEL SIGN :A;AA;AHH;AN;ANG;O;OO;WO;W;E;EN;ENG;OEY;I;IA;IAN;IANG;IO;IE;II;IU;ING;U;UA;UAN;UANG;UU;UEI;UNG
  16F71 MIAO VOWEL SIGN :Y;YI;AE;AEE;ERR;ROUNDED ERR;ER;ROUNDED ER;AI;EI;AU;OU;N;NG;UOG;YUI;OG;OER;VW;IG;EA;IONG;UI
  16F8F MIAO TONE :RIGHT;TOP RIGHT;ABOVE;BELOW
  16F93 MIAO LETTER TONE-:2;3;4;5;6;7;8
  16F9A MIAO LETTER REFORMED TONE-:1;2;4;5;6;8
  16FE0 :TANGUT ITERATION MARK;NUSHU ITERATION MARK
  16FE2 OLD CHINESE :HOOK MARK;ITERATION MARK
  16FE4 :KHITAN SMALL SCRIPT FILLER
  16FF0 VIETNAMESE ALTERNATE READING MARK :CA;NHAY
  18800 TANGUT COMPONENT-:001;002;003;004;005;006;007;008;009
  18809 TANGUT COMPONENT-:010;011;012;013;014;015;016;017;018;019;020;021;022;023;024;025;026;027;028;029;030;031;032
  18820 TANGUT COMPONENT-:033;034;035;036;037;038;039;040;041;042;043;044;045;046;047;048;049;050;051;052;053;054;055
  18837 TANGUT COMPONENT-:056;057;058;059;060;061;062;063;064;065;066;067;068;069;070;071;072;073;074;075;076;077;078
  1884E TANGUT COMPONENT-:079;080;081;082;083;084;085;086;087;088;089;090;091;092;093;094;095;096;097;098;099;100;101
  18865 TANGUT COMPONENT-:102;103;104;105;106;107;108;109;110;111;112;113;114;115;116;117;118;119;120;121;122;123;124
  1887C TANGUT COMPONENT-:125;126;127;128;129;130;131;132;133;134;135;136;137;138;139;140;141;142;143;144;145;146;147
  18893 TANGUT COMPONENT-:148;149;150;151;152;153;154;155;156;157;158;159;160;161;162;163;164;165;166;167;168;169;170
  188AA TANGUT COMPONENT-:171;172;173;174;175;176;177;178;179;180;181;182;183;184;185;186;187;188;189;190;191;192;193
  188C1 TANGUT COMPONENT-:194;195;196;197;198;199;200;201;202;203;204;205;206;207;208;209;210;211;212;213;214;215;216
  188D8 TANGUT COMPONENT-:217;218;219;220;221;222;223;224;225;226;227;228;229;230;231;232;233;234;235;236;237;238;239
  188EF TANGUT COMPONENT-:240;241;242;243;244;245;246;247;248;249;250;251;252;253;254;255;256;257;258;259;260;261;262
  18906 TANGUT COMPONENT-:263;264;265;266;267;268;269;270;271;272;273;274;275;276;277;278;279;280;281;282;283;284;285
  1891D TANGUT COMPONENT-:286;287;288;289;290;291;292;293;294;295;296;297;298;299;300;301;302;303;304;305;306;307;308
  18934 TANGUT COMPONENT-:309;310;311;312;313;314;315;316;317;318;319;320;321;322;323;324;325;326;327;328;329;330;331
  1894B TANGUT COMPONENT-:332;333;334;335;336;337;338;339;340;341;342;343;344;345;346;347;348;349;350;351;352;353;354
  18962 TANGUT COMPONENT-:355;356;357;358;359;360;361;362;363;364;365;366;367;368;369;370;371;372;373;374;375;376;377
  18979 TANGUT COMPONENT-:378;379;380;381;382;383;384;385;386;387;388;389;390;391;392;393;394;395;396;397;398;399;400
  18990 TANGUT COMPONENT-:401;402;403;404;405;406;407;408;409;410;411;412;413;414;415;416;417;418;419;420;421;422;423
  189A7 TANGUT COMPONENT-:424;425;426;427;428;429;430;431;432;433;434;435;436;437;438;439;440;441;442;443;444;445;446
  189BE TANGUT COMPONENT-:447;448;449;450;451;452;453;454;455;456;457;458;459;460;461;462;463;464;465;466;467;468;469
  189D5 TANGUT COMPONENT-:470;471;472;473;474;475;476;477;478;479;480;481;482;483;484;485;486;487;488;489;490;491;492
  189EC TANGUT COMPONENT-:493;494;495;496;497;498;499;500;501;502;503;504;505;506;507;508;509;510;511;512;513;514;515
  18A03 TANGUT COMPONENT-:516;517;518;519;520;521;522;523;524;525;526;527;528;529;530;531;532;533;534;535;536;537;538
  18A1A TANGUT COMPONENT-:539;540;541;542;543;544;545;546;547;548;549;550;551;552;553;554;555;556;557;558;559;560;561
  18A31 TANGUT COMPONENT-:562;563;564;565;566;567;568;569;570;571;572;573;574;575;576;577;578;579;580;581;582;583;584
  18A48 TANGUT COMPONENT-:585;586;587;588;589;590;591;592;593;594;595;596;597;598;599;600;601;602;603;604;605;606;607
  18A5F TANGUT COMPONENT-:608;609;610;611;612;613;614;615;616;617;618;619;620;621;622;623;624;625;626;627;628;629;630
  18A76 TANGUT COMPONENT-:631;632;633;634;635;636;637;638;639;640;641;642;643;644;645;646;647;648;649;650;651;652;653
  18A8D TANGUT COMPONENT-:654;655;656;657;658;659;660;661;662;663;664;665;666;667;668;669;670;671;672;673;674;675;676
  18AA4 TANGUT COMPONENT-:677;678;679;680;681;682;683;684;685;686;687;688;689;690;691;692;693;694;695;696;697;698;699
  18ABB TANGUT COMPONENT-:700;701;702;703;704;705;706;707;708;709;710;711;712;713;714;715;716;717;718;719;720;721;722
  18AD2 TANGUT COMPONENT-:723;724;725;726;727;728;729;730;731;732;733;734;735;736;737;738;739;740;741;742;743;744;745
  18AE9 TANGUT COMPONENT-:746;747;748;749;750;751;752;753;754;755;756;757;758;759;760;761;762;763;764;765;766;767;768
  1AFF0 KATAKANA LETTER MINNAN TONE-:2;3;4;5
  1AFF5 KATAKANA LETTER MINNAN TONE-:7;8
  1AFF7 KATAKANA LETTER MINNAN NASALIZED TONE-:1;2;3;4;5
  1AFFD KATAKANA LETTER MINNAN NASALIZED TONE-:7;8
  1B000 :KATAKANA LETTER ARCHAIC E;HIRAGANA LETTER ARCHAIC YE
  1B002 HENTAIGANA LETTER :A-1;A-2;A-3;A-WO;I-1;I-2;I-3;I-4;U-1;U-2;U-3;U-4;U-5;E-2;E-3;E-4;E-5;E-6;O-1;O-2;O-3
  1B017 HENTAIGANA LETTER KA-:1;2;3;4;5;6;7;8;9;10;11;KE
  1B023 HENTAIGANA LETTER KI-:1;2;3;4;5;6;7;8
  1B02B HENTAIGANA LETTER :KU-1;KU-2;KU-3;KU-4;KU-5;KU-6;KU-7;KE-1;KE-2;KE-3;KE-4;KE-5;KE-6;KO-1;KO-2;KO-3;KO-KI
  1B03C HENTAIGANA LETTER SA-:1;2;3;4;5;6;7;8
  1B044 HENTAIGANA LETTER SI-:1;2;3;4;5;6
  1B04A HENTAIGANA LETTER :SU-1;SU-2;SU-3;SU-4;SU-5;SU-6;SU-7;SU-8;SE-1;SE-2;SE-3;SE-4;SE-5;SO-1;SO-2;SO-3;SO-4;SO-5
  1B05C HENTAIGANA LETTER :SO-6;SO-7;TA-1;TA-2;TA-3;TA-4;TI-1;TI-2;TI-3;TI-4;TI-5;TI-6;TI-7;TU-1;TU-2;TU-3;TU-4;TU-TO
  1B06E HENTAIGANA LETTER TE-:1;2;3;4;5;6;7;8;9
  1B077 HENTAIGANA LETTER TO-:1;2;3;4;5;6;RA
  1B07E HENTAIGANA LETTER NA-:1;2;3;4;5;6;7;8;9
  1B087 HENTAIGANA LETTER NI-:1;2;3;4;5;6;7;TE
  1B08F HENTAIGANA LETTER :NU-1;NU-2;NU-3;NE-1;NE-2;NE-3;NE-4;NE-5;NE-6;NE-KO;NO-1;NO-2;NO-3;NO-4;NO-5
  1B09E HENTAIGANA LETTER HA-:1;2;3;4;5;6;7;8;9;10;11
  1B0A9 HENTAIGANA LETTER :HI-1;HI-2;HI-3;HI-4;HI-5;HI-6;HI-7;HU-1;HU-2;HU-3;HE-1;HE-2;HE-3;HE-4;HE-5;HE-6;HE-7
  1B0BA HENTAIGANA LETTER HO-:1;2;3;4;5;6;7;8
  1B0C2 HENTAIGANA LETTER MA-:1;2;3;4;5;6;7
  1B0C9 HENTAIGANA LETTER :MI-1;MI-2;MI-3;MI-4;MI-5;MI-6;MI-7;MU-1;MU-2;MU-3;MU-4;ME-1;ME-2;ME-MA;MO-1;MO-2
  1B0D9 HENTAIGANA LETTER :MO-3;MO-4;MO-5;MO-6;YA-1;YA-2;YA-3;YA-4;YA-5;YA-YO;YU-1;YU-2;YU-3;YU-4;YO-1;YO-2;YO-3;YO-4
  1B0EB HENTAIGANA LETTER :YO-5;YO-6;RA-1;RA-2;RA-3;RA-4;RI-1;RI-2;RI-3;RI-4;RI-5;RI-6;RI-7;RU-1;RU-2;RU-3;RU-4;RU-5
  1B0FD HENTAIGANA LETTER :RU-6;RE-1;RE-2;RE-3;RE-4;RO-1;RO-2;RO-3;RO-4;RO-5;RO-6;WA-1;WA-2;WA-3;WA-4;WA-5;WI-1;WI-2
  1B10F HENTAIGANA LETTER :WI-3;WI-4;WI-5;WE-1;WE-2;WE-3;WE-4;WO-1;WO-2;WO-3;WO-4;WO-5;WO-6;WO-7;N-MU-MO-1;N-MU-MO-2
  1B11F :HIRAGANA LETTER ARCHAIC WU
  1B120 KATAKANA LETTER ARCHAIC :YI;YE;WU
  1B150 HIRAGANA LETTER SMALL :WI;WE;WO
  1B164 KATAKANA LETTER SMALL :WI;WE;WO;N
  1BC00 DUPLOYAN LETTER :H;X;P;T;F;K;L;B;D;V;G;R;P N;D S;F N;K M;R S;TH;SLOAN DH;DH;KK;SLOAN J;HL
  1BC17 DUPLOYAN LETTER :LH;RH;M;N;J;S;M N;N M;J M;S J;M WITH DOT;N WITH DOT;J WITH DOT;J WITH DOTS INSIDE AND ABOVE
  1BC25 DUPLOYAN LETTER S WITH :DOT;DOT BELOW
  1BC27 DUPLOYAN LETTER :M S;N S;J S;S S;M N S;N M S;J M S;S J S;J S WITH DOT;J N;J N S;S T;S T R;S P;S P R;T S;T R S
  1BC38 DUPLOYAN LETTER :W;WH;W R;S N;S M;K R S;G R S;S K;S K R;A;SLOAN OW;OA;O;AOU;I;E;IE;SHORT I;UI;EE;SLOAN EH
  1BC4D DUPLOYAN LETTER :ROMANIAN I;SLOAN EE;LONG I;YE;U;EU;XW;U N;LONG U;ROMANIAN U;UH;SLOAN U;OOH;OW;OU;WA;WO;WI;WEI
  1BC60 DUPLOYAN LETTER :WOW;NASAL U;NASAL O;NASAL I;NASAL A;PERNIN AN;PERNIN AM;SLOAN EN;SLOAN AN;SLOAN ON;VOCALIC M
  1BC70 DUPLOYAN AFFIX :LEFT HORIZONTAL SECANT;MID HORIZONTAL SECANT
  1BC72 DUPLOYAN AFFIX :RIGHT HORIZONTAL SECANT;LOW VERTICAL SECANT;MID VERTICAL SECANT;HIGH VERTICAL SECANT
  1BC76 DUPLOYAN AFFIX ATTACHED :SECANT;LEFT-TO-RIGHT SECANT;TANGENT;TAIL;E HOOK;I HOOK;TANGENT HOOK
  1BC80 DUPLOYAN AFFIX HIGH :ACUTE;TIGHT ACUTE;GRAVE;LONG GRAVE;DOT;CIRCLE;LINE;WAVE;VERTICAL
  1BC90 DUPLOYAN AFFIX LOW :ACUTE;TIGHT ACUTE;GRAVE;LONG GRAVE;DOT;CIRCLE;LINE;WAVE;VERTICAL;ARROW
  1BC9C DUPLOYAN :SIGN O WITH CROSS;THICK LETTER SELECTOR;DOUBLE MARK;PUNCTUATION CHINOOK FULL STOP
  1BCA0 SHORTHAND FORMAT :LETTER OVERLAP;CONTINUING OVERLAP;DOWN STEP;UP STEP
  1CF00 :ZNAMENNY COMBINING MARK GORAZDO NIZKO S KRYZHEM ON LEFT
  1CF01 ZNAMENNY COMBINING MARK :NIZKO S KRYZHEM ON LEFT;TSATA ON LEFT;GORAZDO NIZKO ON LEFT
  1CF04 ZNAMENNY COMBINING MARK :NIZKO ON LEFT;SREDNE ON LEFT;MALO POVYSHE ON LEFT;POVYSHE ON LEFT;VYSOKO ON LEFT
  1CF09 ZNAMENNY COMBINING MARK :MALO POVYSHE S KHOKHLOM ON LEFT;POVYSHE S KHOKHLOM ON LEFT;VYSOKO S KHOKHLOM ON LEFT
  1CF0C ZNAMENNY COMBINING MARK :GORAZDO NIZKO S KRYZHEM ON RIGHT;NIZKO S KRYZHEM ON RIGHT;TSATA ON RIGHT
  1CF0F ZNAMENNY COMBINING MARK :GORAZDO NIZKO ON RIGHT;NIZKO ON RIGHT;SREDNE ON RIGHT;MALO POVYSHE ON RIGHT
  1CF13 ZNAMENNY COMBINING MARK :POVYSHE ON RIGHT;VYSOKO ON RIGHT;MALO POVYSHE S KHOKHLOM ON RIGHT
  1CF16 ZNAMENNY COMBINING MARK :POVYSHE S KHOKHLOM ON RIGHT;VYSOKO S KHOKHLOM ON RIGHT;TSATA S KRYZHEM
  1CF19 ZNAMENNY COMBINING MARK :MALO POVYSHE S KRYZHEM;STRANNO MALO POVYSHE;POVYSHE S KRYZHEM;POVYSHE STRANNO
  1CF1D ZNAMENNY COMBINING MARK :VYSOKO S KRYZHEM;MALO POVYSHE STRANNO;GORAZDO VYSOKO;ZELO;ON;RAVNO;TIKHAYA
  1CF24 ZNAMENNY COMBINING MARK :BORZAYA;UDARKA;PODVERTKA;LOMKA;KUPNAYA;KACHKA;ZEVOK;SKOBA;RAZSEKA;KRYZH ON LEFT
  1CF30 ZNAMENNY COMBINING TONAL RANGE MARK :MRACHNO;SVETLO;TRESVETLO
  1CF33 ZNAMENNY COMBINING MARK :ZADERZHKA;DEMESTVENNY ZADERZHKA;OTSECHKA;PODCHASHIE;PODCHASHIE WITH VERTICAL STROKE
  1CF38 ZNAMENNY COMBINING MARK :CHASHKA;CHASHKA POLNAYA;OBLACHKO;SOROCHYA NOZHKA;TOCHKA;DVOETOCHIE
  1CF3E ZNAMENNY COMBINING :ATTACHING VERTICAL OMET;MARK CURVED OMET;MARK KRYZH;LOWER TONAL RANGE INDICATOR
  1CF42 ZNAMENNY PRIZNAK MODIFIER :LEVEL-2;LEVEL-3;DIRECTION FLIP;KRYZH;ROG
  1CF50 ZNAMENNY NEUME :KRYUK;KRYUK TIKHY;PARAKLIT;DVA V CHELNU;KLYUCH;ZANOZHEK;STOPITSA;STOPITSA S OCHKOM
  1CF58 ZNAMENNY NEUME :PEREVODKA;PEREVODKA NEPOSTOYANNAYA;STOPITSA WITH SOROCHYA NOZHKA;CHELYUSTKA;PALKA;ZAPYATAYA
  1CF5E ZNAMENNY NEUME GOLUBCHIK :BORZY;TIKHY;MRACHNY;SVETLY;TRESVETLY
  1CF63 ZNAMENNY NEUME VRAKHIYA :PROSTAYA;MRACHNAYA;SVETLAYA;TRESVETLAYA
  1CF67 ZNAMENNY NEUME VRAKHIYA KLYUCHEVAYA :PROSTAYA;MRACHNAYA;SVETLAYA;TRESVETLAYA
  1CF6B ZNAMENNY NEUME :DOUBLE ZAPYATAYA;REVERSED CHELYUSTKA;DERBITSA;KHAMILO;CHASHKA;PODCHASHIE
  1CF71 ZNAMENNY NEUME SKAMEYTSA :MRACHNAYA;SVETLAYA;TRESVETLAYA;TIKHAYA
  1CF75 :ZNAMENNY NEUME DEMESTVENNY KLYUCH
  1CF76 ZNAMENNY NEUME SKAMEYTSA :KLYUCHEVAYA SVETLAYA;KLYUCHENEPOSTOYANNAYA;KLYUCHEVAYA TIKHAYA
  1CF79 ZNAMENNY NEUME SKAMEYTSA DVOECHELNAYA :PROSTAYA;SVETLAYA;NEPOSTOYANNAYA;KLYUCHEVAYA
  1CF7D ZNAMENNY NEUME :SLOZHITIE;SLOZHITIE S ZAPYATOY
  1CF7F ZNAMENNY NEUME :SLOZHITIE ZAKRYTOE;SLOZHITIE S KRYZHEM;KRYZH;ROG;FITA;KOBYLA;ZMEYTSA;STATYA
  1CF87 ZNAMENNY NEUME STATYA S :ZAPYATOY;KRYZHEM;ZAPYATOY I KRYZHEM;KRYZHEM I ZAPYATOY
  1CF8B ZNAMENNY NEUME STATYA :ZAKRYTAYA;ZAKRYTAYA S ZAPYATOY;S ROGOM;S DVUMYA ZAPYATYMI;S ZAPYATOY I PODCHASHIEM
  1CF90 ZNAMENNY NEUME :POLKULIZMY;STATYA NEPOSTOYANNAYA;STRELA PROSTAYA
  1CF93 ZNAMENNY NEUME STRELA :MRACHNOTIKHAYA;KRYZHEVAYA;POLUPOVODNAYA;POVODNAYA;NEPOSTOYANNAYA;KLYUCHEPOVODNAYA
  1CF99 ZNAMENNY NEUME STRELA :KLYUCHENEPOSTOYANNAYA;TIKHAYA PUTNAYA;DVOECHELNAYA;DVOECHELNOKRYZHEVAYA
  1CF9D ZNAMENNY NEUME STRELA :DVOECHELNOPOVODNAYA;DVOECHELNAYA KLYUCHEVAYA;DVOECHELNOPOVODNAYA KLYUCHEVAYA
  1CFA0 ZNAMENNY NEUME STRELA :GROMNAYA WITH SINGLE ZAPYATAYA;GROMOPOVODNAYA WITH SINGLE ZAPYATAYA
  1CFA2 ZNAMENNY NEUME STRELA :GROMNAYA;GROMOPOVODNAYA;GROMOPOVODNAYA WITH DOUBLE ZAPYATAYA;GROMOKRYZHEVAYA
  1CFA6 ZNAMENNY NEUME :STRELA GROMOKRYZHEVAYA POVODNAYA;MECHIK
  1CFA8 ZNAMENNY NEUME MECHIK :POVODNY;KLYUCHEVOY;KLYUCHEPOVODNY;KLYUCHENEPOSTOYANNY
  1CFAC ZNAMENNY NEUME :STRELA TRYASOGLASNAYA;STRELA TRYASOPOVODNAYA;STRELA TRYASOSTRELNAYA;OSOKA
  1CFB0 ZNAMENNY NEUME OSOKA :SVETLAYA;TRESVETLAYA;KRYUKOVAYA SVETLAYA;KLYUCHEVAYA SVETLAYA;KLYUCHEVAYA NEPOSTOYANNAYA
  1CFB5 ZNAMENNY NEUME STRELA :KRYUKOVAYA;KRYUKOVAYA POVODNAYA
  1CFB7 ZNAMENNY NEUME STRELA KRYUKOVAYA :GROMNAYA WITH SINGLE ZAPYATAYA;GROMOPOVODNAYA WITH SINGLE ZAPYATAYA
  1CFB9 ZNAMENNY NEUME STRELA KRYUKOVAYA :GROMNAYA;GROMOPOVODNAYA;GROMOPOVODNAYA WITH DOUBLE ZAPYATAYA
  1CFBC ZNAMENNY NEUME STRELA KRYUKOVAYA :GROMOKRYZHEVAYA;GROMOKRYZHEVAYA POVODNAYA;TRYASKA
  1CFBF ZNAMENNY NEUME :KUFISMA;OBLAKO;DUDA;NEMKA;PAUK
  1D000 BYZANTINE MUSICAL SYMBOL :PSILI;DASEIA;PERISPOMENI;OXEIA EKFONITIKON
  1D004 BYZANTINE MUSICAL SYMBOL :OXEIA DIPLI;VAREIA EKFONITIKON;VAREIA DIPLI;KATHISTI;SYRMATIKI;PARAKLITIKI
  1D00A BYZANTINE MUSICAL SYMBOL :YPOKRISIS;YPOKRISIS DIPLI;KREMASTI;APESO EKFONITIKON;EXO EKFONITIKON;TELEIA
  1D010 BYZANTINE MUSICAL SYMBOL :KENTIMATA;APOSTROFOS;APOSTROFOS DIPLI;SYNEVMA;THITA;OLIGON ARCHAION;GORGON ARCHAION
  1D017 BYZANTINE MUSICAL SYMBOL :PSILON;CHAMILON;VATHY;ISON ARCHAION;KENTIMA ARCHAION;KENTIMATA ARCHAION;SAXIMATA
  1D01E BYZANTINE MUSICAL SYMBOL :PARICHON;STAVROS APODEXIA;OXEIAI ARCHAION;VAREIAI ARCHAION;APODERMA ARCHAION
  1D023 BYZANTINE MUSICAL SYMBOL :APOTHEMA;KLASMA;REVMA;PIASMA ARCHAION;TINAGMA;ANATRICHISMA;SEISMA;SYNAGMA ARCHAION
  1D02B BYZANTINE MUSICAL SYMBOL :SYNAGMA META STAVROU;OYRANISMA ARCHAION;THEMA;LEMOI;DYO;TRIA;TESSERA
  1D032 BYZANTINE MUSICAL SYMBOL :KRATIMATA;APESO EXO NEO;FTHORA ARCHAION;IMIFTHORA;TROMIKON ARCHAION;KATAVA TROMIKON
  1D038 BYZANTINE MUSICAL SYMBOL :PELASTON;PSIFISTON;KONTEVMA;CHOREVMA ARCHAION;RAPISMA;PARAKALESMA ARCHAION
  1D03E BYZANTINE MUSICAL SYMBOL :PARAKLITIKI ARCHAION;ICHADIN;NANA;PETASMA;KONTEVMA ALLO;TROMIKON ALLO;STRAGGISMATA
  1D045 BYZANTINE MUSICAL SYMBOL :GRONTHISMATA;ISON NEO;OLIGON NEO;OXEIA NEO;PETASTI;KOUFISMA;PETASTOKOUFISMA
  1D04C BYZANTINE MUSICAL SYMBOL :KRATIMOKOUFISMA;PELASTON NEO;KENTIMATA NEO ANO;KENTIMA NEO ANO;YPSILI;APOSTROFOS NEO
  1D052 BYZANTINE MUSICAL SYMBOL :APOSTROFOI SYNDESMOS NEO;YPORROI;KRATIMOYPORROON;ELAFRON;CHAMILI;MIKRON ISON
  1D058 BYZANTINE MUSICAL SYMBOL :VAREIA NEO;PIASMA NEO;PSIFISTON NEO;OMALON;ANTIKENOMA;LYGISMA;PARAKLITIKI NEO
  1D05F BYZANTINE MUSICAL SYMBOL :PARAKALESMA NEO;ETERON PARAKALESMA;KYLISMA;ANTIKENOKYLISMA;TROMIKON NEO;EKSTREPTON
  1D065 BYZANTINE MUSICAL SYMBOL :SYNAGMA NEO;SYRMA;CHOREVMA NEO;EPEGERMA;SEISMA NEO;XIRON KLASMA;TROMIKOPSIFISTON
  1D06C BYZANTINE MUSICAL SYMBOL :PSIFISTOLYGISMA;TROMIKOLYGISMA;TROMIKOPARAKALESMA;PSIFISTOPARAKALESMA;TROMIKOSYNAGMA
  1D071 BYZANTINE MUSICAL SYMBOL :PSIFISTOSYNAGMA;GORGOSYNTHETON;ARGOSYNTHETON;ETERON ARGOSYNTHETON;OYRANISMA NEO
  1D076 BYZANTINE MUSICAL SYMBOL :THEMATISMOS ESO;THEMATISMOS EXO;THEMA APLOUN;THES KAI APOTHES;KATAVASMA
  1D07B BYZANTINE MUSICAL SYMBOL :ENDOFONON;YFEN KATO;YFEN ANO;STAVROS;KLASMA ANO;DIPLI ARCHAION;KRATIMA ARCHAION
  1D082 BYZANTINE MUSICAL SYMBOL :KRATIMA ALLO;KRATIMA NEO;APODERMA NEO;APLI;DIPLI;TRIPLI;TETRAPLI;KORONIS
  1D08A BYZANTINE MUSICAL SYMBOL LEIMMA :ENOS CHRONOU;DYO CHRONON;TRION CHRONON;TESSARON CHRONON;IMISEOS CHRONOU
  1D08F BYZANTINE MUSICAL SYMBOL :GORGON NEO ANO;GORGON PARESTIGMENON ARISTERA;GORGON PARESTIGMENON DEXIA;DIGORGON
  1D093 BYZANTINE MUSICAL SYMBOL DIGORGON PARESTIGMENON :ARISTERA KATO;ARISTERA ANO;DEXIA
  1D096 BYZANTINE MUSICAL SYMBOL :TRIGORGON;ARGON;IMIDIARGON;DIARGON
  1D09A BYZANTINE MUSICAL SYMBOL AGOGI :POLI ARGI;ARGOTERI;ARGI;METRIA;MESI;GORGI;GORGOTERI;POLI GORGI
  1D0A2 BYZANTINE MUSICAL SYMBOL MARTYRIA :PROTOS ICHOS;ALLI PROTOS ICHOS;DEYTEROS ICHOS;ALLI DEYTEROS ICHOS
  1D0A6 BYZANTINE MUSICAL SYMBOL MARTYRIA :TRITOS ICHOS;TRIFONIAS;TETARTOS ICHOS;TETARTOS LEGETOS ICHOS;LEGETOS ICHOS
  1D0AB BYZANTINE MUSICAL SYMBOL :MARTYRIA PLAGIOS ICHOS;ISAKIA TELOUS ICHIMATOS;APOSTROFOI TELOUS ICHIMATOS
  1D0AE BYZANTINE MUSICAL SYMBOL FANEROSIS :TETRAFONIAS;MONOFONIAS;DIFONIAS
  1D0B1 BYZANTINE MUSICAL SYMBOL MARTYRIA :VARYS ICHOS;PROTOVARYS ICHOS;PLAGIOS TETARTOS ICHOS
  1D0B4 BYZANTINE MUSICAL SYMBOL GORTHMIKON N :APLOUN;DIPLOUN
  1D0B6 BYZANTINE MUSICAL SYMBOL :ENARXIS KAI FTHORA VOU;IMIFONON;IMIFTHORON;FTHORA ARCHAION DEYTEROU ICHOU
  1D0BA BYZANTINE MUSICAL SYMBOL FTHORA :DIATONIKI PA;DIATONIKI NANA;NAOS ICHOS;DIATONIKI DI;SKLIRON DIATONON DI
  1D0BF BYZANTINE MUSICAL SYMBOL FTHORA DIATONIKI :KE;ZO;NI KATO;NI ANO
  1D0C3 BYZANTINE MUSICAL SYMBOL FTHORA MALAKON CHROMA :DIFONIAS;MONOFONIAS
  1D0C5 BYZANTINE MUSICAL SYMBOL :FHTORA SKLIRON CHROMA VASIS;FTHORA SKLIRON CHROMA SYNAFI;FTHORA NENANO;CHROA ZYGOS
  1D0C9 BYZANTINE MUSICAL SYMBOL :CHROA KLITON;CHROA SPATHI;FTHORA I YFESIS TETARTIMORION;FTHORA ENARMONIOS ANTIFONIA
  1D0CD BYZANTINE MUSICAL SYMBOL :YFESIS TRITIMORION;DIESIS TRITIMORION;DIESIS TETARTIMORION;DIESIS APLI DYO DODEKATA
  1D0D1 BYZANTINE MUSICAL SYMBOL DIESIS :MONOGRAMMOS TESSERA DODEKATA;DIGRAMMOS EX DODEKATA;TRIGRAMMOS OKTO DODEKATA
  1D0D4 BYZANTINE MUSICAL SYMBOL YFESIS :APLI DYO DODEKATA;MONOGRAMMOS TESSERA DODEKATA;DIGRAMMOS EX DODEKATA
  1D0D7 BYZANTINE MUSICAL SYMBOL :YFESIS TRIGRAMMOS OKTO DODEKATA;GENIKI DIESIS;GENIKI YFESIS
  1D0DA BYZANTINE MUSICAL SYMBOL DIASTOLI :APLI MIKRI;APLI MEGALI;DIPLI;THESEOS
  1D0DE BYZANTINE MUSICAL SYMBOL SIMANSIS :THESEOS;THESEOS DISIMOU;THESEOS TRISIMOU;THESEOS TETRASIMOU;ARSEOS
  1D0E3 BYZANTINE MUSICAL SYMBOL SIMANSIS ARSEOS :DISIMOU;TRISIMOU;TETRASIMOU
  1D0E6 BYZANTINE MUSICAL SYMBOL :DIGRAMMA GG;DIFTOGGOS OU;STIGMA
  1D0E9 BYZANTINE MUSICAL SYMBOL ARKTIKO :PA;VOU;GA;DI;KE;ZO;NI
  1D0F0 :BYZANTINE MUSICAL SYMBOL KENTIMATA NEO MESO
  1D0F1 BYZANTINE MUSICAL SYMBOL :KENTIMA NEO MESO;KENTIMATA NEO KATO;KENTIMA NEO KATO;KLASMA KATO;GORGON NEO KATO
  1D100 MUSICAL SYMBOL :SINGLE BARLINE;DOUBLE BARLINE;FINAL BARLINE;REVERSE FINAL BARLINE;DASHED BARLINE
  1D105 MUSICAL SYMBOL :SHORT BARLINE;LEFT REPEAT SIGN;RIGHT REPEAT SIGN;REPEAT DOTS;DAL SEGNO;DA CAPO;SEGNO;CODA
  1D10D MUSICAL SYMBOL REPEATED FIGURE-:1;2;3
  1D110 MUSICAL SYMBOL :FERMATA;FERMATA BELOW;BREATH MARK;CAESURA;BRACE;BRACKET
  1D116 MUSICAL SYMBOL :ONE-LINE STAFF;TWO-LINE STAFF;THREE-LINE STAFF;FOUR-LINE STAFF;FIVE-LINE STAFF;SIX-LINE STAFF
  1D11C MUSICAL SYMBOL :SIX-STRING FRETBOARD;FOUR-STRING FRETBOARD;G CLEF;G CLEF OTTAVA ALTA;G CLEF OTTAVA BASSA
  1D121 MUSICAL SYMBOL :C CLEF;F CLEF;F CLEF OTTAVA ALTA;F CLEF OTTAVA BASSA;DRUM CLEF-1;DRUM CLEF-2
  1D129 MUSICAL SYMBOL :MULTIPLE MEASURE REST;DOUBLE SHARP;DOUBLE FLAT;FLAT UP;FLAT DOWN;NATURAL UP;NATURAL DOWN
  1D130 MUSICAL SYMBOL :SHARP UP;SHARP DOWN;QUARTER TONE SHARP;QUARTER TONE FLAT;COMMON TIME;CUT TIME;OTTAVA ALTA
  1D137 MUSICAL SYMBOL :OTTAVA BASSA;QUINDICESIMA ALTA;QUINDICESIMA BASSA;MULTI REST;WHOLE REST;HALF REST;QUARTER REST
  1D13E MUSICAL SYMBOL :EIGHTH REST;SIXTEENTH REST;THIRTY-SECOND REST;SIXTY-FOURTH REST;ONE HUNDRED TWENTY-EIGHTH REST
  1D143 MUSICAL SYMBOL :X NOTEHEAD;PLUS NOTEHEAD;CIRCLE X NOTEHEAD;SQUARE NOTEHEAD WHITE;SQUARE NOTEHEAD BLACK
  1D148 MUSICAL SYMBOL TRIANGLE NOTEHEAD :UP WHITE;UP BLACK;LEFT WHITE;LEFT BLACK
  1D14C MUSICAL SYMBOL TRIANGLE NOTEHEAD :RIGHT WHITE;RIGHT BLACK;DOWN WHITE;DOWN BLACK;UP RIGHT WHITE;UP RIGHT BLACK
  1D152 MUSICAL SYMBOL MOON NOTEHEAD :WHITE;BLACK
  1D154 MUSICAL SYMBOL TRIANGLE-ROUND NOTEHEAD DOWN :WHITE;BLACK
  1D156 MUSICAL SYMBOL :PARENTHESIS NOTEHEAD;VOID NOTEHEAD;NOTEHEAD BLACK;NULL NOTEHEAD
  1D15A MUSICAL SYMBOL :CLUSTER NOTEHEAD WHITE;CLUSTER NOTEHEAD BLACK;BREVE;WHOLE NOTE;HALF NOTE;QUARTER NOTE
  1D160 MUSICAL SYMBOL :EIGHTH NOTE;SIXTEENTH NOTE;THIRTY-SECOND NOTE;SIXTY-FOURTH NOTE;ONE HUNDRED TWENTY-EIGHTH NOTE
  1D165 MUSICAL SYMBOL COMBINING :STEM;SPRECHGESANG STEM;TREMOLO-1;TREMOLO-2;TREMOLO-3
  1D16A MUSICAL SYMBOL FINGERED TREMOLO-:1;2;3
  1D16D MUSICAL SYMBOL COMBINING :AUGMENTATION DOT;FLAG-1;FLAG-2;FLAG-3;FLAG-4;FLAG-5
  1D173 MUSICAL SYMBOL :BEGIN BEAM;END BEAM;BEGIN TIE;END TIE;BEGIN SLUR;END SLUR;BEGIN PHRASE;END PHRASE
  1D17B MUSICAL SYMBOL COMBINING :ACCENT;STACCATO;TENUTO;STACCATISSIMO;MARCATO;MARCATO-STACCATO;ACCENT-STACCATO;LOURE
  1D183 MUSICAL SYMBOL ARPEGGIATO :UP;DOWN
  1D185 MUSICAL SYMBOL COMBINING :DOIT;RIP;FLIP;SMEAR;BEND;DOUBLE TONGUE;TRIPLE TONGUE
  1D18C MUSICAL SYMBOL :RINFORZANDO;SUBITO;Z;PIANO;MEZZO;FORTE;CRESCENDO
  1D193 MUSICAL SYMBOL :DECRESCENDO;GRACE NOTE SLASH;GRACE NOTE NO SLASH;TR;TURN;INVERTED TURN;TURN SLASH;TURN UP
  1D19B MUSICAL SYMBOL ORNAMENT STROKE-:1;2;3;4;5;6;7;8;9;10;11
  1D1A6 MUSICAL SYMBOL :HAUPTSTIMME;NEBENSTIMME;END OF STIMME;DEGREE SLASH
  1D1AA MUSICAL SYMBOL COMBINING :DOWN BOW;UP BOW;HARMONIC;SNAP PIZZICATO
  1D1AE MUSICAL SYMBOL :PEDAL MARK;PEDAL UP MARK;HALF PEDAL MARK;GLISSANDO UP;GLISSANDO DOWN
  1D1B3 MUSICAL SYMBOL :WITH FINGERNAILS;DAMP;DAMP ALL;MAXIMA;LONGA;BREVIS;SEMIBREVIS WHITE;SEMIBREVIS BLACK;MINIMA
  1D1BC MUSICAL SYMBOL :MINIMA BLACK;SEMIMINIMA WHITE;SEMIMINIMA BLACK;FUSA WHITE;FUSA BLACK;LONGA PERFECTA REST
  1D1C2 MUSICAL SYMBOL :LONGA IMPERFECTA REST;BREVIS REST;SEMIBREVIS REST;MINIMA REST;SEMIMINIMA REST
  1D1C7 MUSICAL SYMBOL TEMPUS PERFECTUM CUM PROLATIONE :PERFECTA;IMPERFECTA;PERFECTA DIMINUTION-1
  1D1CA MUSICAL SYMBOL TEMPUS IMPERFECTUM CUM PROLATIONE :PERFECTA;IMPERFECTA
  1D1CC MUSICAL SYMBOL TEMPUS IMPERFECTUM CUM PROLATIONE IMPERFECTA DIMINUTION-:1;2;3
  1D1CF MUSICAL SYMBOL :CROIX;GREGORIAN C CLEF;GREGORIAN F CLEF;SQUARE B;VIRGA;PODATUS;CLIVIS;SCANDICUS;CLIMACUS
  1D1D8 MUSICAL SYMBOL :TORCULUS;PORRECTUS;PORRECTUS FLEXUS;SCANDICUS FLEXUS;TORCULUS RESUPINUS;PES SUBPUNCTIS
  1D1DE MUSICAL SYMBOL KIEVAN :C CLEF;END OF PIECE;FINAL NOTE;RECITATIVE MARK;WHOLE NOTE;HALF NOTE
  1D1E4 MUSICAL SYMBOL KIEVAN QUARTER NOTE STEM :DOWN;UP
  1D1E6 MUSICAL SYMBOL KIEVAN EIGHTH NOTE STEM :DOWN;UP
  1D1E8 MUSICAL SYMBOL :KIEVAN FLAT SIGN;SORI;KORON
  1D200 GREEK VOCAL NOTATION SYMBOL-:1;2;3;4;5;6;7;8;9;10;11;12;13;14;15;16;17;18;19;20;21;22;23;24;50;51;52;53;54
  1D21D GREEK INSTRUMENTAL NOTATION SYMBOL-:1;2;4;5;7;8;11;12;13;14;17;18
  1D229 GREEK INSTRUMENTAL NOTATION SYMBOL-:19;23;24;25;26;27;29;30;32;36;37;38;39;40;42;43;45;47;48;49;50;51;52;53;54
  1D242 COMBINING GREEK MUSICAL :TRISEME;TETRASEME;PENTASEME
  1D245 :GREEK MUSICAL LEIMMA
  1D2E0 MAYAN NUMERAL :ZERO;ONE;TWO;THREE;FOUR;FIVE;SIX;SEVEN
  1D2E8 MAYAN NUMERAL :EIGHT;NINE;TEN;ELEVEN;TWELVE;THIRTEEN;FOURTEEN;FIFTEEN;SIXTEEN;SEVENTEEN;EIGHTEEN;NINETEEN
  1D300 :MONOGRAM FOR EARTH
  1D301 DIGRAM FOR :HEAVENLY EARTH;HUMAN EARTH;EARTHLY HEAVEN;EARTHLY HUMAN;EARTH
  1D306 TETRAGRAM FOR :CENTRE;FULL CIRCLE;MIRED;BARRIER;KEEPING SMALL;CONTRARIETY;ASCENT;OPPOSITION
  1D30E TETRAGRAM FOR :BRANCHING OUT;DEFECTIVENESS OR DISTORTION;DIVERGENCE;YOUTHFULNESS;INCREASE;PENETRATION
  1D314 TETRAGRAM FOR :REACH;CONTACT;HOLDING BACK;WAITING;FOLLOWING;ADVANCE;RELEASE;RESISTANCE;EASE;JOY;CONTENTION
  1D31F TETRAGRAM FOR :ENDEAVOUR;DUTIES;CHANGE;DECISIVENESS;BOLD RESOLUTION;PACKING;LEGION;CLOSENESS;KINSHIP;GATHERING
  1D329 TETRAGRAM FOR :STRENGTH;PURITY;FULLNESS;RESIDENCE;LAW OR MODEL;RESPONSE;GOING TO MEET;ENCOUNTERS;STOVE
  1D332 TETRAGRAM FOR :GREATNESS;ENLARGEMENT;PATTERN;RITUAL;FLIGHT;VASTNESS OR WASTING;CONSTANCY;MEASURE;ETERNITY
  1D33B TETRAGRAM FOR :UNITY;DIMINISHMENT;CLOSED MOUTH;GUARDEDNESS;GATHERING IN;MASSING;ACCUMULATION;EMBELLISHMENT
  1D343 TETRAGRAM FOR :DOUBT;WATCH;SINKING;INNER;DEPARTURE;DARKENING;DIMMING;EXHAUSTION;SEVERANCE;STOPPAGE;HARDNESS
  1D34E TETRAGRAM FOR :COMPLETION;CLOSURE;FAILURE;AGGRAVATION;COMPLIANCE;ON THE VERGE;DIFFICULTIES;LABOURING;FOSTERING
  1D360 COUNTING ROD UNIT DIGIT :ONE;TWO;THREE;FOUR;FIVE;SIX;SEVEN;EIGHT;NINE
  1D369 COUNTING ROD TENS DIGIT :ONE;TWO;THREE;FOUR;FIVE;SIX;SEVEN;EIGHT;NINE
  1D372 IDEOGRAPHIC TALLY MARK :ONE;TWO;THREE;FOUR;FIVE
  1D377 TALLY MARK :ONE;FIVE
  1D400 MATHEMATICAL BOLD CAPITAL :A;B;C;D;E;F;G;H;I;J;K;L;M;N;O;P;Q;R;S;T;U;V;W;X;Y;Z
  1D41A MATHEMATICAL BOLD SMALL :A;B;C;D;E;F;G;H;I;J;K;L;M;N;O;P;Q;R;S;T;U;V;W;X;Y;Z
  1D434 MATHEMATICAL ITALIC CAPITAL :A;B;C;D;E;F;G;H;I;J;K;L;M;N;O;P;Q;R;S;T;U;V;W;X;Y;Z
  1D44E MATHEMATICAL ITALIC SMALL :A;B;C;D;E;F;G
  1D456 MATHEMATICAL ITALIC SMALL :I;J;K;L;M;N;O;P;Q;R;S;T;U;V;W;X;Y;Z
  1D468 MATHEMATICAL BOLD ITALIC CAPITAL :A;B;C;D;E;F;G;H;I;J;K;L;M;N;O;P;Q;R;S;T;U;V;W;X;Y;Z
  1D482 MATHEMATICAL BOLD ITALIC SMALL :A;B;C;D;E;F;G;H;I;J;K;L;M;N;O;P;Q;R;S;T;U;V;W;X;Y;Z
  1D49C :MATHEMATICAL SCRIPT CAPITAL A
  1D49E MATHEMATICAL SCRIPT CAPITAL :C;D
  1D4A2 :MATHEMATICAL SCRIPT CAPITAL G
  1D4A5 MATHEMATICAL SCRIPT CAPITAL :J;K
  1D4A9 MATHEMATICAL SCRIPT CAPITAL :N;O;P;Q
  1D4AE MATHEMATICAL SCRIPT CAPITAL :S;T;U;V;W;X;Y;Z
  1D4B6 MATHEMATICAL SCRIPT SMALL :A;B;C;D
  1D4BB :MATHEMATICAL SCRIPT SMALL F
  1D4BD MATHEMATICAL SCRIPT SMALL :H;I;J;K;L;M;N
  1D4C5 MATHEMATICAL SCRIPT SMALL :P;Q;R;S;T;U;V;W;X;Y;Z
  1D4D0 MATHEMATICAL BOLD SCRIPT CAPITAL :A;B;C;D;E;F;G;H;I;J;K;L;M;N;O;P;Q;R;S;T;U;V;W;X;Y;Z
  1D4EA MATHEMATICAL BOLD SCRIPT SMALL :A;B;C;D;E;F;G;H;I;J;K;L;M;N;O;P;Q;R;S;T;U;V;W;X;Y;Z
  1D504 MATHEMATICAL FRAKTUR CAPITAL :A;B
  1D507 MATHEMATICAL FRAKTUR CAPITAL :D;E;F;G
  1D50D MATHEMATICAL FRAKTUR CAPITAL :J;K;L;M;N;O;P;Q
  1D516 MATHEMATICAL FRAKTUR CAPITAL :S;T;U;V;W;X;Y
  1D51E MATHEMATICAL FRAKTUR SMALL :A;B;C;D;E;F;G;H;I;J;K;L;M;N;O;P;Q;R;S;T;U;V;W;X;Y;Z
  1D538 MATHEMATICAL DOUBLE-STRUCK CAPITAL :A;B
  1D53B MATHEMATICAL DOUBLE-STRUCK CAPITAL :D;E;F;G
  1D540 MATHEMATICAL DOUBLE-STRUCK CAPITAL :I;J;K;L;M
  1D546 :MATHEMATICAL DOUBLE-STRUCK CAPITAL O
  1D54A MATHEMATICAL DOUBLE-STRUCK CAPITAL :S;T;U;V;W;X;Y
  1D552 MATHEMATICAL DOUBLE-STRUCK SMALL :A;B;C;D;E;F;G;H;I;J;K;L;M;N;O;P;Q;R;S;T;U;V;W;X;Y;Z
  1D56C MATHEMATICAL BOLD FRAKTUR CAPITAL :A;B;C;D;E;F;G;H;I;J;K;L;M;N;O;P;Q;R;S;T;U;V;W;X;Y;Z
  1D586 MATHEMATICAL BOLD FRAKTUR SMALL :A;B;C;D;E;F;G;H;I;J;K;L;M;N;O;P;Q;R;S;T;U;V;W;X;Y;Z
  1D5A0 MATHEMATICAL SANS-SERIF CAPITAL :A;B;C;D;E;F;G;H;I;J;K;L;M;N;O;P;Q;R;S;T;U;V;W;X;Y;Z
  1D5BA MATHEMATICAL SANS-SERIF SMALL :A;B;C;D;E;F;G;H;I;J;K;L;M;N;O;P;Q;R;S;T;U;V;W;X;Y;Z
  1D5D4 MATHEMATICAL SANS-SERIF BOLD CAPITAL :A;B;C;D;E;F;G;H;I;J;K;L;M;N;O;P;Q;R;S;T;U;V;W;X;Y;Z
  1D5EE MATHEMATICAL SANS-SERIF BOLD SMALL :A;B;C;D;E;F;G;H;I;J;K;L;M;N;O;P;Q;R;S;T;U;V;W;X;Y;Z
  1D608 MATHEMATICAL SANS-SERIF ITALIC CAPITAL :A;B;C;D;E;F;G;H;I;J;K;L;M;N;O;P;Q;R;S;T;U;V;W;X;Y;Z
  1D622 MATHEMATICAL SANS-SERIF ITALIC SMALL :A;B;C;D;E;F;G;H;I;J;K;L;M;N;O;P;Q;R;S;T;U;V;W;X;Y;Z
  1D63C MATHEMATICAL SANS-SERIF BOLD ITALIC CAPITAL :A;B;C;D;E;F;G;H;I;J;K;L;M;N;O;P;Q;R;S;T;U;V;W;X;Y;Z
  1D656 MATHEMATICAL SANS-SERIF BOLD ITALIC SMALL :A;B;C;D;E;F;G;H;I;J;K;L;M;N;O;P;Q;R;S;T;U;V;W;X;Y;Z
  1D670 MATHEMATICAL MONOSPACE CAPITAL :A;B;C;D;E;F;G;H;I;J;K;L;M;N;O;P;Q;R;S;T;U;V;W;X;Y;Z
  1D68A MATHEMATICAL MONOSPACE SMALL :A;B;C;D;E;F;G;H;I;J;K;L;M;N;O;P;Q;R;S;T;U;V;W;X;Y;Z
  1D6A4 MATHEMATICAL ITALIC SMALL DOTLESS :I;J
  1D6A8 MATHEMATICAL BOLD CAPITAL :ALPHA;BETA;GAMMA;DELTA;EPSILON;ZETA;ETA;THETA;IOTA;KAPPA
  1D6B2 MATHEMATICAL BOLD CAPITAL :LAMDA;MU;NU;XI;OMICRON;PI;RHO;THETA SYMBOL;SIGMA;TAU;UPSILON;PHI;CHI;PSI;OMEGA
  1D6C1 :MATHEMATICAL BOLD NABLA
  1D6C2 MATHEMATICAL BOLD SMALL :ALPHA;BETA;GAMMA;DELTA;EPSILON;ZETA;ETA;THETA;IOTA
  1D6CB MATHEMATICAL BOLD SMALL :KAPPA;LAMDA;MU;NU;XI;OMICRON;PI;RHO;FINAL SIGMA;SIGMA;TAU;UPSILON;PHI;CHI;PSI;OMEGA
  1D6DB :MATHEMATICAL BOLD PARTIAL DIFFERENTIAL
  1D6DC MATHEMATICAL BOLD :EPSILON SYMBOL;THETA SYMBOL;KAPPA SYMBOL;PHI SYMBOL;RHO SYMBOL;PI SYMBOL
  1D6E2 MATHEMATICAL ITALIC CAPITAL :ALPHA;BETA;GAMMA;DELTA;EPSILON;ZETA;ETA;THETA;IOTA;KAPPA
  1D6EC MATHEMATICAL ITALIC CAPITAL :LAMDA;MU;NU;XI;OMICRON;PI;RHO;THETA SYMBOL;SIGMA;TAU;UPSILON;PHI;CHI;PSI;OMEGA
  1D6FB :MATHEMATICAL ITALIC NABLA
  1D6FC MATHEMATICAL ITALIC SMALL :ALPHA;BETA;GAMMA;DELTA;EPSILON;ZETA;ETA;THETA;IOTA
  1D705 MATHEMATICAL ITALIC SMALL :KAPPA;LAMDA;MU;NU;XI;OMICRON;PI;RHO;FINAL SIGMA;SIGMA;TAU;UPSILON;PHI;CHI;PSI;OMEGA
  1D715 :MATHEMATICAL ITALIC PARTIAL DIFFERENTIAL
  1D716 MATHEMATICAL ITALIC :EPSILON SYMBOL;THETA SYMBOL;KAPPA SYMBOL;PHI SYMBOL;RHO SYMBOL;PI SYMBOL
  1D71C MATHEMATICAL BOLD ITALIC CAPITAL :ALPHA;BETA;GAMMA;DELTA;EPSILON;ZETA;ETA;THETA;IOTA;KAPPA;LAMDA
  1D727 MATHEMATICAL BOLD ITALIC CAPITAL :MU;NU;XI;OMICRON;PI;RHO;THETA SYMBOL;SIGMA;TAU;UPSILON;PHI;CHI;PSI;OMEGA
  1D735 :MATHEMATICAL BOLD ITALIC NABLA
  1D736 MATHEMATICAL BOLD ITALIC SMALL :ALPHA;BETA;GAMMA;DELTA;EPSILON;ZETA;ETA;THETA;IOTA;KAPPA
  1D740 MATHEMATICAL BOLD ITALIC SMALL :LAMDA;MU;NU;XI;OMICRON;PI;RHO;FINAL SIGMA;SIGMA;TAU;UPSILON;PHI;CHI;PSI;OMEGA
  1D74F :MATHEMATICAL BOLD ITALIC PARTIAL DIFFERENTIAL
  1D750 MATHEMATICAL BOLD ITALIC :EPSILON SYMBOL;THETA SYMBOL;KAPPA SYMBOL;PHI SYMBOL;RHO SYMBOL;PI SYMBOL
  1D756 MATHEMATICAL SANS-SERIF BOLD CAPITAL :ALPHA;BETA;GAMMA;DELTA;EPSILON;ZETA;ETA;THETA;IOTA;KAPPA;LAMDA
  1D761 MATHEMATICAL SANS-SERIF BOLD CAPITAL :MU;NU;XI;OMICRON;PI;RHO;THETA SYMBOL;SIGMA;TAU;UPSILON;PHI;CHI;PSI;OMEGA
  1D76F :MATHEMATICAL SANS-SERIF BOLD NABLA
  1D770 MATHEMATICAL SANS-SERIF BOLD SMALL :ALPHA;BETA;GAMMA;DELTA;EPSILON;ZETA;ETA;THETA;IOTA;KAPPA;LAMDA
  1D77B MATHEMATICAL SANS-SERIF BOLD SMALL :MU;NU;XI;OMICRON;PI;RHO;FINAL SIGMA;SIGMA;TAU;UPSILON;PHI;CHI;PSI;OMEGA
  1D789 :MATHEMATICAL SANS-SERIF BOLD PARTIAL DIFFERENTIAL
  1D78A MATHEMATICAL SANS-SERIF BOLD :EPSILON SYMBOL;THETA SYMBOL;KAPPA SYMBOL;PHI SYMBOL;RHO SYMBOL;PI SYMBOL
  1D790 MATHEMATICAL SANS-SERIF BOLD ITALIC CAPITAL :ALPHA;BETA;GAMMA;DELTA;EPSILON;ZETA;ETA;THETA;IOTA;KAPPA;LAMDA;MU
  1D79C MATHEMATICAL SANS-SERIF BOLD ITALIC CAPITAL :NU;XI;OMICRON;PI;RHO;THETA SYMBOL;SIGMA;TAU;UPSILON;PHI;CHI;PSI
  1D7A8 MATHEMATICAL SANS-SERIF BOLD ITALIC :CAPITAL OMEGA;NABLA
  1D7AA MATHEMATICAL SANS-SERIF BOLD ITALIC SMALL :ALPHA;BETA;GAMMA;DELTA;EPSILON;ZETA;ETA;THETA;IOTA;KAPPA;LAMDA
  1D7B5 MATHEMATICAL SANS-SERIF BOLD ITALIC SMALL :MU;NU;XI;OMICRON;PI;RHO;FINAL SIGMA;SIGMA;TAU;UPSILON;PHI;CHI;PSI
  1D7C2 MATHEMATICAL SANS-SERIF BOLD ITALIC :SMALL OMEGA;PARTIAL DIFFERENTIAL
  1D7C4 MATHEMATICAL SANS-SERIF BOLD ITALIC :EPSILON SYMBOL;THETA SYMBOL;KAPPA SYMBOL;PHI SYMBOL;RHO SYMBOL;PI SYMBOL
  1D7CA MATHEMATICAL BOLD :CAPITAL DIGAMMA;SMALL DIGAMMA
  1D7CE MATHEMATICAL BOLD DIGIT :ZERO;ONE;TWO;THREE;FOUR;FIVE;SIX;SEVEN;EIGHT;NINE
  1D7D8 MATHEMATICAL DOUBLE-STRUCK DIGIT :ZERO;ONE;TWO;THREE;FOUR;FIVE;SIX;SEVEN;EIGHT;NINE
  1D7E2 MATHEMATICAL SANS-SERIF DIGIT :ZERO;ONE;TWO;THREE;FOUR;FIVE;SIX;SEVEN;EIGHT;NINE
  1D7EC MATHEMATICAL SANS-SERIF BOLD DIGIT :ZERO;ONE;TWO;THREE;FOUR;FIVE;SIX;SEVEN;EIGHT;NINE
  1D7F6 MATHEMATICAL MONOSPACE DIGIT :ZERO;ONE;TWO;THREE;FOUR;FIVE;SIX;SEVEN;EIGHT;NINE
  1D800 SIGNWRITING HAND-:FIST INDEX;CIRCLE INDEX;CUP INDEX;OVAL INDEX
  1D804 SIGNWRITING HAND-:HINGE INDEX;ANGLE INDEX;FIST INDEX BENT;CIRCLE INDEX BENT;FIST THUMB UNDER INDEX BENT
  1D809 SIGNWRITING HAND-FIST INDEX :RAISED KNUCKLE;CUPPED;HINGED;HINGED LOW
  1D80D SIGNWRITING HAND-:CIRCLE INDEX HINGE;FIST INDEX MIDDLE;CIRCLE INDEX MIDDLE
  1D810 SIGNWRITING HAND-FIST INDEX MIDDLE :BENT;RAISED KNUCKLES;HINGED
  1D813 SIGNWRITING HAND-FIST INDEX :UP MIDDLE HINGED;HINGED MIDDLE UP;MIDDLE CONJOINED
  1D816 SIGNWRITING HAND-FIST INDEX MIDDLE CONJOINED :INDEX BENT;MIDDLE BENT;CUPPED;HINGED
  1D81A SIGNWRITING HAND-:FIST INDEX MIDDLE CROSSED;CIRCLE INDEX MIDDLE CROSSED;FIST MIDDLE BENT OVER INDEX
  1D81D SIGNWRITING HAND-FIST INDEX :BENT OVER MIDDLE;MIDDLE THUMB
  1D81F SIGNWRITING HAND-:CIRCLE INDEX MIDDLE THUMB;FIST INDEX MIDDLE STRAIGHT THUMB BENT
  1D821 SIGNWRITING HAND-FIST INDEX MIDDLE :BENT THUMB STRAIGHT;THUMB BENT;HINGED SPREAD THUMB SIDE
  1D824 SIGNWRITING HAND-FIST INDEX UP MIDDLE HINGED THUMB :SIDE;CONJOINED
  1D826 SIGNWRITING HAND-FIST INDEX :HINGED MIDDLE UP THUMB SIDE;MIDDLE UP SPREAD THUMB FORWARD
  1D828 SIGNWRITING HAND-FIST INDEX MIDDLE THUMB :CUPPED;CIRCLED;HOOKED;HINGED
  1D82C :SIGNWRITING HAND-FIST THUMB BETWEEN INDEX MIDDLE STRAIGHT
  1D82D SIGNWRITING HAND-FIST INDEX MIDDLE CONJOINED THUMB :SIDE;SIDE CONJOINED;SIDE BENT
  1D830 SIGNWRITING HAND-FIST :MIDDLE THUMB HOOKED INDEX UP;INDEX THUMB HOOKED MIDDLE UP
  1D832 SIGNWRITING HAND-FIST INDEX MIDDLE :CONJOINED HINGED THUMB SIDE;CROSSED THUMB SIDE
  1D834 SIGNWRITING HAND-FIST INDEX MIDDLE CONJOINED :THUMB FORWARD;CUPPED THUMB FORWARD
  1D836 SIGNWRITING HAND-FIST :MIDDLE THUMB CUPPED INDEX UP;INDEX THUMB CUPPED MIDDLE UP
  1D838 SIGNWRITING HAND-FIST MIDDLE THUMB CIRCLED INDEX :UP;HINGED
  1D83A SIGNWRITING HAND-FIST INDEX THUMB :ANGLED OUT MIDDLE UP;ANGLED IN MIDDLE UP;CIRCLED MIDDLE UP
  1D83D SIGNWRITING HAND-FIST INDEX MIDDLE THUMB :CONJOINED HINGED;ANGLED OUT;ANGLED
  1D840 SIGNWRITING HAND-FIST MIDDLE THUMB ANGLED :OUT INDEX UP;OUT INDEX CROSSED;INDEX UP
  1D843 SIGNWRITING HAND-:FIST INDEX THUMB HOOKED MIDDLE HINGED;FLAT FOUR FINGERS
  1D845 SIGNWRITING HAND-FLAT FOUR FINGERS :BENT;HINGED;CONJOINED;CONJOINED SPLIT
  1D849 SIGNWRITING HAND-:CLAW FOUR FINGERS CONJOINED;FIST FOUR FINGERS CONJOINED BENT;HINGE FOUR FINGERS CONJOINED
  1D84C SIGNWRITING HAND-FLAT :FIVE FINGERS SPREAD;HEEL FIVE FINGERS SPREAD;FIVE FINGERS SPREAD FOUR BENT
  1D84F SIGNWRITING HAND-FLAT :HEEL FIVE FINGERS SPREAD FOUR BENT;FIVE FINGERS SPREAD BENT
  1D851 SIGNWRITING HAND-FLAT :HEEL FIVE FINGERS SPREAD BENT;FIVE FINGERS SPREAD THUMB FORWARD
  1D853 SIGNWRITING HAND-CUP FIVE FINGERS :SPREAD;SPREAD OPEN
  1D855 SIGNWRITING HAND-:HINGE FIVE FINGERS SPREAD OPEN;OVAL FIVE FINGERS SPREAD
  1D857 SIGNWRITING HAND-FLAT FIVE FINGERS SPREAD :HINGED;HINGED THUMB SIDE;HINGED NO THUMB
  1D85A :SIGNWRITING HAND-FLAT
  1D85B SIGNWRITING HAND-FLAT :BETWEEN PALM FACINGS;HEEL;THUMB SIDE;HEEL THUMB SIDE;THUMB BENT;THUMB FORWARD
  1D861 SIGNWRITING HAND-FLAT SPLIT :INDEX THUMB SIDE;CENTRE;CENTRE THUMB SIDE;CENTRE THUMB SIDE BENT;LITTLE
  1D866 SIGNWRITING HAND-:CLAW;CLAW THUMB SIDE;CLAW NO THUMB;CLAW THUMB FORWARD;HOOK CURLICUE;HOOK;CUP OPEN;CUP
  1D86E SIGNWRITING HAND-CUP :OPEN THUMB SIDE;THUMB SIDE;OPEN NO THUMB;NO THUMB;OPEN THUMB FORWARD;THUMB FORWARD
  1D874 SIGNWRITING HAND-:CURLICUE OPEN;CURLICUE;CIRCLE;OVAL
  1D878 SIGNWRITING HAND-:OVAL THUMB SIDE;OVAL NO THUMB;OVAL THUMB FORWARD;HINGE OPEN;HINGE OPEN THUMB FORWARD;HINGE
  1D87E SIGNWRITING HAND-HINGE :SMALL;OPEN THUMB SIDE;THUMB SIDE;OPEN NO THUMB;NO THUMB;THUMB SIDE TOUCHING INDEX
  1D884 SIGNWRITING HAND-:HINGE THUMB BETWEEN MIDDLE RING;ANGLE;FIST INDEX MIDDLE RING;CIRCLE INDEX MIDDLE RING
  1D888 SIGNWRITING HAND-:HINGE INDEX MIDDLE RING;ANGLE INDEX MIDDLE RING;HINGE LITTLE;FIST INDEX MIDDLE RING BENT
  1D88C SIGNWRITING HAND-:FIST INDEX MIDDLE RING CONJOINED;HINGE INDEX MIDDLE RING CONJOINED
  1D88E SIGNWRITING HAND-FIST LITTLE :DOWN;DOWN RIPPLE STRAIGHT;DOWN RIPPLE CURVED;DOWN OTHERS CIRCLED;UP
  1D893 SIGNWRITING HAND-:FIST THUMB UNDER LITTLE UP;CIRCLE LITTLE UP;OVAL LITTLE UP;ANGLE LITTLE UP
  1D897 SIGNWRITING HAND-FIST LITTLE :RAISED KNUCKLE;BENT;TOUCHES THUMB;THUMB
  1D89B SIGNWRITING HAND-:HINGE LITTLE THUMB;FIST LITTLE INDEX THUMB;HINGE LITTLE INDEX THUMB
  1D89E SIGNWRITING HAND-ANGLE LITTLE INDEX THUMB INDEX :THUMB OUT;THUMB
  1D8A0 SIGNWRITING HAND-:FIST LITTLE INDEX;CIRCLE LITTLE INDEX;HINGE LITTLE INDEX;ANGLE LITTLE INDEX
  1D8A4 SIGNWRITING HAND-:FIST INDEX MIDDLE LITTLE;CIRCLE INDEX MIDDLE LITTLE;HINGE INDEX MIDDLE LITTLE
  1D8A7 SIGNWRITING HAND-:HINGE RING;ANGLE INDEX MIDDLE LITTLE;FIST INDEX MIDDLE CROSS LITTLE
  1D8AA SIGNWRITING HAND-:CIRCLE INDEX MIDDLE CROSS LITTLE;FIST RING DOWN;HINGE RING DOWN INDEX THUMB HOOK MIDDLE
  1D8AD SIGNWRITING HAND-:ANGLE RING DOWN MIDDLE THUMB INDEX CROSS;FIST RING UP;FIST RING RAISED KNUCKLE
  1D8B0 SIGNWRITING HAND-:FIST RING LITTLE;CIRCLE RING LITTLE;OVAL RING LITTLE;ANGLE RING LITTLE
  1D8B4 SIGNWRITING HAND-FIST RING :MIDDLE;MIDDLE CONJOINED;MIDDLE RAISED KNUCKLES;INDEX;THUMB
  1D8B9 :SIGNWRITING HAND-HOOK RING THUMB
  1D8BA SIGNWRITING HAND-:FIST INDEX RING LITTLE;CIRCLE INDEX RING LITTLE;CURLICUE INDEX RING LITTLE ON
  1D8BD SIGNWRITING HAND-HOOK INDEX RING LITTLE :OUT;IN;UNDER
  1D8C0 SIGNWRITING HAND-:CUP INDEX RING LITTLE;HINGE INDEX RING LITTLE;ANGLE INDEX RING LITTLE OUT
  1D8C3 SIGNWRITING HAND-:ANGLE INDEX RING LITTLE;FIST MIDDLE DOWN;HINGE MIDDLE;FIST MIDDLE UP
  1D8C7 SIGNWRITING HAND-:CIRCLE MIDDLE UP;FIST MIDDLE RAISED KNUCKLE;FIST MIDDLE UP THUMB SIDE;HOOK MIDDLE THUMB
  1D8CB SIGNWRITING HAND-FIST MIDDLE :THUMB LITTLE;LITTLE;RING LITTLE
  1D8CE :SIGNWRITING HAND-CIRCLE MIDDLE RING LITTLE
  1D8CF SIGNWRITING HAND-:CURLICUE MIDDLE RING LITTLE ON;CUP MIDDLE RING LITTLE;HINGE MIDDLE RING LITTLE
  1D8D2 SIGNWRITING HAND-ANGLE MIDDLE RING :LITTLE OUT;LITTLE IN;LITTLE
  1D8D5 :SIGNWRITING HAND-CIRCLE MIDDLE RING LITTLE BENT
  1D8D6 SIGNWRITING HAND-CLAW MIDDLE RING LITTLE :CONJOINED;CONJOINED SIDE
  1D8D8 SIGNWRITING HAND-HOOK MIDDLE RING LITTLE :CONJOINED OUT;CONJOINED IN;CONJOINED
  1D8DB SIGNWRITING HAND-:HINGE INDEX HINGED;FIST INDEX THUMB SIDE;HINGE INDEX THUMB SIDE
  1D8DE SIGNWRITING HAND-FIST INDEX THUMB SIDE :THUMB DIAGONAL;THUMB CONJOINED;THUMB BENT;INDEX BENT;BOTH BENT
  1D8E3 SIGNWRITING HAND-FIST INDEX THUMB :SIDE INDEX HINGE;FORWARD INDEX STRAIGHT;FORWARD INDEX BENT;HOOK;CURLICUE
  1D8E8 SIGNWRITING HAND-:FIST INDEX THUMB CURVE THUMB INSIDE;CLAW INDEX THUMB CURVE THUMB INSIDE
  1D8EA SIGNWRITING HAND-FIST INDEX THUMB :CURVE THUMB UNDER;CIRCLE
  1D8EC SIGNWRITING HAND-CUP INDEX :THUMB;THUMB OPEN
  1D8EE SIGNWRITING HAND-HINGE INDEX :THUMB OPEN;THUMB LARGE;THUMB;THUMB SMALL
  1D8F2 SIGNWRITING HAND-ANGLE INDEX :THUMB OUT;THUMB IN;THUMB
  1D8F5 SIGNWRITING HAND-FIST :THUMB;THUMB HEEL;THUMB SIDE DIAGONAL;THUMB SIDE CONJOINED;THUMB SIDE BENT;THUMB FORWARD
  1D8FB SIGNWRITING HAND-FIST THUMB :BETWEEN INDEX MIDDLE;BETWEEN MIDDLE RING;BETWEEN RING LITTLE;UNDER TWO FINGERS
  1D8FF SIGNWRITING HAND-FIST THUMB :OVER TWO FINGERS;UNDER THREE FINGERS;UNDER FOUR FINGERS;OVER FOUR RAISED KNUCKLES
  1D903 SIGNWRITING :HAND-FIST;HAND-FIST HEEL;TOUCH SINGLE;TOUCH MULTIPLE;TOUCH BETWEEN;GRASP SINGLE
  1D909 SIGNWRITING :GRASP MULTIPLE;GRASP BETWEEN;STRIKE SINGLE;STRIKE MULTIPLE;STRIKE BETWEEN;BRUSH SINGLE
  1D90F SIGNWRITING :BRUSH MULTIPLE;BRUSH BETWEEN;RUB SINGLE;RUB MULTIPLE;RUB BETWEEN;SURFACE SYMBOLS;SURFACE BETWEEN
  1D916 SIGNWRITING SQUEEZE :LARGE SINGLE;SMALL SINGLE;LARGE MULTIPLE;SMALL MULTIPLE;SEQUENTIAL
  1D91B SIGNWRITING FLICK :LARGE SINGLE;SMALL SINGLE;LARGE MULTIPLE;SMALL MULTIPLE;SEQUENTIAL
  1D920 :SIGNWRITING SQUEEZE FLICK ALTERNATING
  1D921 SIGNWRITING MOVEMENT-HINGE :UP DOWN LARGE;UP DOWN SMALL;UP SEQUENTIAL;DOWN SEQUENTIAL
  1D925 SIGNWRITING MOVEMENT-HINGE UP DOWN ALTERNATING :LARGE;SMALL
  1D927 SIGNWRITING MOVEMENT-:HINGE SIDE TO SIDE SCISSORS;WALLPLANE FINGER CONTACT;FLOORPLANE FINGER CONTACT
  1D92A SIGNWRITING MOVEMENT-WALLPLANE SINGLE STRAIGHT :SMALL;MEDIUM;LARGE;LARGEST
  1D92E SIGNWRITING MOVEMENT-WALLPLANE :SINGLE WRIST FLEX;DOUBLE STRAIGHT
  1D930 SIGNWRITING MOVEMENT-WALLPLANE :DOUBLE WRIST FLEX;DOUBLE ALTERNATING;DOUBLE ALTERNATING WRIST FLEX;CROSS
  1D934 SIGNWRITING MOVEMENT-WALLPLANE TRIPLE :STRAIGHT MOVEMENT;WRIST FLEX;ALTERNATING;ALTERNATING WRIST FLEX
  1D938 SIGNWRITING MOVEMENT-WALLPLANE BEND :SMALL;MEDIUM;LARGE
  1D93B SIGNWRITING MOVEMENT-WALLPLANE CORNER :SMALL;MEDIUM;LARGE;ROTATION
  1D93F SIGNWRITING MOVEMENT-WALLPLANE :CHECK SMALL;CHECK MEDIUM;CHECK LARGE;BOX SMALL;BOX MEDIUM;BOX LARGE
  1D945 SIGNWRITING MOVEMENT-WALLPLANE :ZIGZAG SMALL;ZIGZAG MEDIUM;ZIGZAG LARGE;PEAKS SMALL;PEAKS MEDIUM;PEAKS LARGE
  1D94B SIGNWRITING TRAVEL-WALLPLANE ROTATION-WALLPLANE :SINGLE;DOUBLE;ALTERNATING
  1D94E SIGNWRITING TRAVEL-WALLPLANE ROTATION-FLOORPLANE :SINGLE;DOUBLE;ALTERNATING
  1D951 SIGNWRITING TRAVEL-WALLPLANE :SHAKING;ARM SPIRAL SINGLE;ARM SPIRAL DOUBLE;ARM SPIRAL TRIPLE
  1D955 SIGNWRITING MOVEMENT-DIAGONAL AWAY :SMALL;MEDIUM;LARGE;LARGEST
  1D959 SIGNWRITING MOVEMENT-DIAGONAL TOWARDS :SMALL;MEDIUM;LARGE;LARGEST
  1D95D SIGNWRITING MOVEMENT-DIAGONAL BETWEEN AWAY :SMALL;MEDIUM;LARGE;LARGEST
  1D961 SIGNWRITING MOVEMENT-DIAGONAL BETWEEN TOWARDS :SMALL;MEDIUM;LARGE;LARGEST
  1D965 SIGNWRITING MOVEMENT-FLOORPLANE SINGLE STRAIGHT :SMALL;MEDIUM;LARGE;LARGEST
  1D969 :SIGNWRITING MOVEMENT-FLOORPLANE SINGLE WRIST FLEX
  1D96A SIGNWRITING MOVEMENT-FLOORPLANE DOUBLE :STRAIGHT;WRIST FLEX;ALTERNATING;ALTERNATING WRIST FLEX
  1D96E SIGNWRITING MOVEMENT-FLOORPLANE :CROSS;TRIPLE STRAIGHT MOVEMENT;TRIPLE WRIST FLEX;TRIPLE ALTERNATING MOVEMENT
  1D972 SIGNWRITING MOVEMENT-FLOORPLANE :TRIPLE ALTERNATING WRIST FLEX;BEND;CORNER SMALL;CORNER MEDIUM;CORNER LARGE
  1D977 SIGNWRITING MOVEMENT-FLOORPLANE :CHECK;BOX SMALL;BOX MEDIUM;BOX LARGE;ZIGZAG SMALL;ZIGZAG MEDIUM;ZIGZAG LARGE
  1D97E SIGNWRITING MOVEMENT-FLOORPLANE PEAKS :SMALL;MEDIUM;LARGE
  1D981 SIGNWRITING TRAVEL-FLOORPLANE ROTATION-FLOORPLANE :SINGLE;DOUBLE;ALTERNATING
  1D984 SIGNWRITING TRAVEL-FLOORPLANE ROTATION-WALLPLANE :SINGLE;DOUBLE;ALTERNATING
  1D987 :SIGNWRITING TRAVEL-FLOORPLANE SHAKING
  1D988 SIGNWRITING MOVEMENT-WALLPLANE CURVE QUARTER :SMALL;MEDIUM;LARGE;LARGEST
  1D98C SIGNWRITING MOVEMENT-WALLPLANE CURVE HALF-CIRCLE :SMALL;MEDIUM;LARGE;LARGEST
  1D990 SIGNWRITING MOVEMENT-WALLPLANE CURVE THREE-QUARTER CIRCLE :SMALL;MEDIUM
  1D992 SIGNWRITING MOVEMENT-WALLPLANE HUMP :SMALL;MEDIUM;LARGE
  1D995 SIGNWRITING MOVEMENT-WALLPLANE LOOP :SMALL;MEDIUM;LARGE;SMALL DOUBLE
  1D999 SIGNWRITING MOVEMENT-WALLPLANE WAVE CURVE DOUBLE :SMALL;MEDIUM;LARGE
  1D99C SIGNWRITING MOVEMENT-WALLPLANE WAVE CURVE TRIPLE :SMALL;MEDIUM;LARGE
  1D99F SIGNWRITING MOVEMENT-WALLPLANE :CURVE THEN STRAIGHT;CURVED CROSS SMALL;CURVED CROSS MEDIUM
  1D9A2 SIGNWRITING ROTATION-WALLPLANE :SINGLE;DOUBLE;ALTERNATE
  1D9A5 SIGNWRITING MOVEMENT-WALLPLANE :SHAKING;CURVE HITTING FRONT WALL
  1D9A7 SIGNWRITING MOVEMENT-WALLPLANE :HUMP HITTING FRONT WALL;LOOP HITTING FRONT WALL;WAVE HITTING FRONT WALL
  1D9AA :SIGNWRITING ROTATION-WALLPLANE SINGLE HITTING FRONT WALL
  1D9AB SIGNWRITING ROTATION-WALLPLANE :DOUBLE HITTING FRONT WALL;ALTERNATING HITTING FRONT WALL
  1D9AD SIGNWRITING MOVEMENT-WALLPLANE :CURVE HITTING CHEST;HUMP HITTING CHEST;LOOP HITTING CHEST;WAVE HITTING CHEST
  1D9B1 SIGNWRITING ROTATION-WALLPLANE :SINGLE HITTING CHEST;DOUBLE HITTING CHEST;ALTERNATING HITTING CHEST
  1D9B4 SIGNWRITING MOVEMENT-WALLPLANE WAVE DIAGONAL PATH :SMALL;MEDIUM;LARGE
  1D9B7 SIGNWRITING MOVEMENT-FLOORPLANE CURVE HITTING CEILING :SMALL;LARGE
  1D9B9 SIGNWRITING MOVEMENT-FLOORPLANE HUMP HITTING CEILING :SMALL DOUBLE;LARGE DOUBLE;SMALL TRIPLE;LARGE TRIPLE
  1D9BD SIGNWRITING MOVEMENT-FLOORPLANE LOOP HITTING CEILING :SMALL SINGLE;LARGE SINGLE;SMALL DOUBLE;LARGE DOUBLE
  1D9C1 SIGNWRITING MOVEMENT-FLOORPLANE WAVE HITTING CEILING :SMALL;LARGE
  1D9C3 SIGNWRITING ROTATION-FLOORPLANE :SINGLE HITTING CEILING;DOUBLE HITTING CEILING;ALTERNATING HITTING CEILING
  1D9C6 SIGNWRITING MOVEMENT-FLOORPLANE CURVE HITTING FLOOR :SMALL;LARGE
  1D9C8 SIGNWRITING MOVEMENT-FLOORPLANE HUMP HITTING FLOOR :SMALL DOUBLE;LARGE DOUBLE
  1D9CA SIGNWRITING MOVEMENT-FLOORPLANE HUMP HITTING FLOOR TRIPLE :SMALL TRIPLE;LARGE TRIPLE
  1D9CC SIGNWRITING MOVEMENT-FLOORPLANE LOOP HITTING FLOOR :SMALL SINGLE;LARGE SINGLE;SMALL DOUBLE;LARGE DOUBLE
  1D9D0 SIGNWRITING MOVEMENT-FLOORPLANE WAVE HITTING FLOOR :SMALL;LARGE
  1D9D2 SIGNWRITING ROTATION-FLOORPLANE :SINGLE HITTING FLOOR;DOUBLE HITTING FLOOR;ALTERNATING HITTING FLOOR
  1D9D5 SIGNWRITING MOVEMENT-FLOORPLANE CURVE :SMALL;MEDIUM;LARGE;LARGEST;COMBINED
  1D9DA SIGNWRITING MOVEMENT-FLOORPLANE :HUMP SMALL;LOOP SMALL;WAVE SNAKE;WAVE SMALL;WAVE LARGE
  1D9DF SIGNWRITING ROTATION-FLOORPLANE :SINGLE;DOUBLE;ALTERNATING
  1D9E2 :SIGNWRITING MOVEMENT-FLOORPLANE SHAKING PARALLEL
  1D9E3 SIGNWRITING MOVEMENT-WALLPLANE ARM CIRCLE :SMALL SINGLE;MEDIUM SINGLE;SMALL DOUBLE;MEDIUM DOUBLE
  1D9E7 SIGNWRITING MOVEMENT-FLOORPLANE ARM CIRCLE HITTING WALL :SMALL SINGLE;MEDIUM SINGLE
  1D9E9 SIGNWRITING MOVEMENT-FLOORPLANE ARM CIRCLE HITTING WALL :LARGE SINGLE;SMALL DOUBLE;MEDIUM DOUBLE;LARGE DOUBLE
  1D9ED SIGNWRITING MOVEMENT-WALLPLANE WRIST CIRCLE FRONT :SINGLE;DOUBLE
  1D9EF SIGNWRITING MOVEMENT-FLOORPLANE WRIST CIRCLE HITTING WALL :SINGLE;DOUBLE
  1D9F1 SIGNWRITING MOVEMENT-WALLPLANE FINGER CIRCLES :SINGLE;DOUBLE
  1D9F3 SIGNWRITING MOVEMENT-FLOORPLANE FINGER CIRCLES HITTING WALL :SINGLE;DOUBLE
  1D9F5 SIGNWRITING DYNAMIC ARROWHEAD :SMALL;LARGE
  1D9F7 SIGNWRITING DYNAMIC :FAST;SLOW;TENSE;RELAXED;SIMULTANEOUS;SIMULTANEOUS ALTERNATING;EVERY OTHER TIME;GRADUAL
  1D9FF SIGNWRITING :HEAD;HEAD RIM
  1DA01 SIGNWRITING HEAD MOVEMENT-:WALLPLANE STRAIGHT;WALLPLANE TILT;FLOORPLANE STRAIGHT;WALLPLANE CURVE
  1DA05 SIGNWRITING HEAD :MOVEMENT-FLOORPLANE CURVE;MOVEMENT CIRCLE
  1DA07 SIGNWRITING FACE DIRECTION POSITION NOSE :FORWARD TILTING;UP OR DOWN;UP OR DOWN TILTING
  1DA0A SIGNWRITING EYEBROWS STRAIGHT :UP;NEUTRAL;DOWN
  1DA0D SIGNWRITING DREAMY EYEBROWS :NEUTRAL DOWN;DOWN NEUTRAL;UP NEUTRAL;NEUTRAL UP
  1DA11 SIGNWRITING FOREHEAD :NEUTRAL;CONTACT;WRINKLED
  1DA14 SIGNWRITING :EYES OPEN;EYES SQUEEZED;EYES CLOSED;EYE BLINK SINGLE
  1DA18 SIGNWRITING :EYE BLINK MULTIPLE;EYES HALF OPEN;EYES WIDE OPEN;EYES HALF CLOSED;EYES WIDENING MOVEMENT;EYE WINK
  1DA1E SIGNWRITING EYELASHES :UP;DOWN;FLUTTERING
  1DA21 SIGNWRITING EYEGAZE-WALLPLANE :STRAIGHT;STRAIGHT DOUBLE;STRAIGHT ALTERNATING
  1DA24 SIGNWRITING EYEGAZE-FLOORPLANE :STRAIGHT;STRAIGHT DOUBLE;STRAIGHT ALTERNATING
  1DA27 SIGNWRITING EYEGAZE-:WALLPLANE CURVED;FLOORPLANE CURVED;WALLPLANE CIRCLING
  1DA2A SIGNWRITING CHEEKS :PUFFED;NEUTRAL;SUCKED
  1DA2D SIGNWRITING TENSE CHEEKS :HIGH;MIDDLE;LOW
  1DA30 SIGNWRITING :EARS;NOSE NEUTRAL;NOSE CONTACT;NOSE WRINKLES;NOSE WIGGLES;AIR BLOWING OUT
  1DA36 SIGNWRITING :AIR SUCKING IN;AIR BLOW SMALL ROTATIONS;AIR SUCK SMALL ROTATIONS;BREATH INHALE;BREATH EXHALE
  1DA3B SIGNWRITING MOUTH CLOSED :NEUTRAL;FORWARD;CONTACT
  1DA3E SIGNWRITING MOUTH :SMILE;SMILE WRINKLED;SMILE OPEN;FROWN;FROWN WRINKLED;FROWN OPEN
  1DA44 SIGNWRITING MOUTH OPEN :CIRCLE;FORWARD;WRINKLED;OVAL;OVAL WRINKLED;OVAL YAWN;RECTANGLE;RECTANGLE WRINKLED
  1DA4C SIGNWRITING MOUTH :OPEN RECTANGLE YAWN;KISS;KISS FORWARD;KISS WRINKLED;TENSE;TENSE FORWARD;TENSE SUCKED
  1DA53 SIGNWRITING :LIPS PRESSED TOGETHER;LIP LOWER OVER UPPER;LIP UPPER OVER LOWER;MOUTH CORNERS
  1DA57 SIGNWRITING MOUTH WRINKLES :SINGLE;DOUBLE
  1DA59 SIGNWRITING TONGUE :STICKING OUT FAR;LICKING LIPS;TIP BETWEEN LIPS;TIP TOUCHING INSIDE MOUTH
  1DA5D SIGNWRITING TONGUE :INSIDE MOUTH RELAXED;MOVES AGAINST CHEEK;CENTRE STICKING OUT;CENTRE INSIDE MOUTH
  1DA61 :SIGNWRITING TEETH
  1DA62 SIGNWRITING TEETH :MOVEMENT;ON TONGUE;ON TONGUE MOVEMENT;ON LIPS;ON LIPS MOVEMENT;BITE LIPS
  1DA68 SIGNWRITING :MOVEMENT-WALLPLANE JAW;MOVEMENT-FLOORPLANE JAW;NECK;HAIR;EXCITEMENT
  1DA6D SIGNWRITING SHOULDER HIP :SPINE;POSITIONS
  1DA6F SIGNWRITING :WALLPLANE SHOULDER HIP MOVE;FLOORPLANE SHOULDER HIP MOVE;SHOULDER TILTING FROM WAIST
  1DA72 SIGNWRITING TORSO-WALLPLANE :STRAIGHT STRETCH;CURVED BEND
  1DA74 SIGNWRITING :TORSO-FLOORPLANE TWISTING;UPPER BODY TILTING FROM HIP JOINTS;LIMB COMBINATION
  1DA77 SIGNWRITING LIMB LENGTH-:1;2;3;4;5;6;7
  1DA7E SIGNWRITING :FINGER;LOCATION-WALLPLANE SPACE;LOCATION-FLOORPLANE SPACE
  1DA81 SIGNWRITING LOCATION :HEIGHT;WIDTH;DEPTH;HEAD NECK;TORSO;LIMBS DIGITS
  1DA87 SIGNWRITING :COMMA;FULL STOP;SEMICOLON;COLON;PARENTHESIS
  1DA9B SIGNWRITING FILL MODIFIER-:2;3;4;5;6
  1DAA1 SIGNWRITING ROTATION MODIFIER-:2;3;4;5;6;7;8;9;10;11;12;13;14;15;16
  1DF00 LATIN SMALL LETTER :FENG DIGRAPH WITH TRILL;REVERSED SCRIPT G
  1DF02 LATIN :LETTER SMALL CAPITAL TURNED G;SMALL LETTER REVERSED K;LETTER SMALL CAPITAL L WITH BELT
  1DF05 LATIN SMALL LETTER :LEZH WITH RETROFLEX HOOK;TURNED Y WITH BELT
  1DF07 LATIN SMALL LETTER :REVERSED ENG;TURNED R WITH LONG LEG AND RETROFLEX HOOK;T WITH HOOK AND RETROFLEX HOOK
  1DF0A :LATIN LETTER RETROFLEX CLICK WITH RETROFLEX HOOK
  1DF0B LATIN SMALL LETTER :ESH WITH DOUBLE BAR;ESH WITH DOUBLE BAR AND CURL;TURNED T WITH CURL
  1DF0E LATIN LETTER :INVERTED GLOTTAL STOP WITH CURL;STRETCHED C WITH CURL;SMALL CAPITAL TURNED K
  1DF11 :LATIN SMALL LETTER L WITH FISHHOOK
  1DF12 LATIN SMALL LETTER :DEZH DIGRAPH WITH PALATAL HOOK;L WITH BELT AND PALATAL HOOK;ENG WITH PALATAL HOOK
  1DF15 LATIN SMALL LETTER :TURNED R WITH PALATAL HOOK;R WITH FISHHOOK AND PALATAL HOOK;TESH DIGRAPH WITH PALATAL HOOK
  1DF18 LATIN SMALL LETTER :EZH WITH PALATAL HOOK;DEZH DIGRAPH WITH RETROFLEX HOOK;I WITH STROKE AND RETROFLEX HOOK
  1DF1B LATIN SMALL LETTER :O WITH RETROFLEX HOOK;TESH DIGRAPH WITH RETROFLEX HOOK;C WITH RETROFLEX HOOK;S WITH CURL
  1E000 COMBINING GLAGOLITIC LETTER :AZU;BUKY;VEDE;GLAGOLI;DOBRO;YESTU;ZHIVETE
  1E008 COMBINING GLAGOLITIC LETTER :ZEMLJA;IZHE;INITIAL IZHE
  1E00B COMBINING GLAGOLITIC LETTER :I;DJERVI;KAKO;LJUDIJE;MYSLITE;NASHI;ONU;POKOJI;RITSI;SLOVO;TVRIDO;UKU;FRITU;HERU
  1E01B COMBINING GLAGOLITIC LETTER :SHTA;TSI;CHRIVI;SHA;YERU;YERI;YATI
  1E023 COMBINING GLAGOLITIC LETTER :YU;SMALL YUS
  1E026 COMBINING GLAGOLITIC LETTER :YO;IOTATED SMALL YUS;BIG YUS;IOTATED BIG YUS;FITA
  1E100 NYIAKENG PUACHUE HMONG LETTER :MA;TSA;NTA;TA;HA;NA;XA;NKA;CA;LA;SA;ZA;NCA;NTSA;KA;DA;NYA;NRA;VA;NTXA
  1E114 NYIAKENG PUACHUE HMONG LETTER :TXA;FA;RA;QA;YA;NQA;PA;XYA;NPA;DLA;NPLA;HAH;MLA;PLA;GA;RRA;A;AA;I;U;O;OO;E;EE;W
  1E130 NYIAKENG PUACHUE HMONG TONE-:B;M;J;V;S;G;D
  1E137 NYIAKENG PUACHUE HMONG SIGN FOR :PERSON;THING;LOCATION;ANIMAL;INVERTEBRATE
  1E13C NYIAKENG PUACHUE HMONG :SIGN XW XW;SYLLABLE LENGTHENER
  1E140 NYIAKENG PUACHUE HMONG DIGIT :ZERO;ONE;TWO;THREE;FOUR;FIVE;SIX;SEVEN;EIGHT;NINE
  1E14E NYIAKENG PUACHUE HMONG :LOGOGRAM NYAJ;CIRCLED CA
  1E290 TOTO LETTER :PA;BA;TA;DA;KA;GA;MA;NA;NGA
  1E299 TOTO LETTER :SA;CHA;YA;WA;JA;HA;RA;LA;I;BREATHY I;IU;BREATHY IU;U;E;BREATHY E;EO;BREATHY EO;O;AE;BREATHY AE;A
  1E2AE :TOTO SIGN RISING TONE
  1E2C0 WANCHO LETTER :AA;A;BA;CA;DA;GA;YA;PHA;LA;NA;PA;TA;THA;FA;SA;SHA
  1E2D0 WANCHO LETTER :JA;ZA;WA;VA;KA;O;AU;RA;MA;KHA;HA;E;I;NGA;U;LLHA;TSA;TRA;ONG;AANG;ANG;ING;ON;EN;AAN;NYA;UEN;YIH
  1E2EC WANCHO TONE :TUP;TUPNI;KOI;KOINI
  1E2F0 WANCHO DIGIT :ZERO;ONE;TWO;THREE;FOUR;FIVE;SIX;SEVEN;EIGHT;NINE
  1E2FF :WANCHO NGUN SIGN
  1E7E0 ETHIOPIC SYLLABLE :HHYA;HHYU;HHYI;HHYAA;HHYEE;HHYE;HHYO
  1E7E8 ETHIOPIC SYLLABLE :GURAGE HHWA;HHWI;HHWEE;HHWE
  1E7ED ETHIOPIC SYLLABLE GURAGE :MWI;MWEE
  1E7F0 ETHIOPIC SYLLABLE GURAGE :QWI;QWEE;QWE;BWI;BWEE;KWI;KWEE;KWE;GWI;GWEE;GWE;FWI;FWEE;PWI;PWEE
  1E800 MENDE KIKAKUI SYLLABLE :M001 KI;M002 KA;M003 KU;M065 KEE;M095 KE
  1E805 MENDE KIKAKUI SYLLABLE :M076 KOO;M048 KO;M179 KUA;M004 WI;M005 WA;M006 WU;M126 WEE;M118 WE;M114 WOO;M045 WO
  1E80F MENDE KIKAKUI SYLLABLE :M194 WUI;M143 WEI;M061 WVI;M049 WVA;M139 WVE;M007 MIN;M008 MAN;M009 MUN;M059 MEN
  1E818 MENDE KIKAKUI SYLLABLE :M094 MON;M154 MUAN;M189 MUEN;M010 BI;M011 BA;M012 BU;M150 BEE;M097 BE;M103 BOO
  1E821 MENDE KIKAKUI SYLLABLE :M138 BO;M013 I;M014 A;M015 U;M163 EE;M100 E;M165 OO;M147 O;M137 EI;M131 IN;M135 IN
  1E82C MENDE KIKAKUI SYLLABLE :M195 AN;M178 EN;M019 SI;M020 SA;M021 SU;M162 SEE;M116 SE;M136 SOO;M079 SO;M196 SIA
  1E836 MENDE KIKAKUI SYLLABLE :M025 LI;M026 LA;M027 LU;M084 LEE;M073 LE;M054 LOO;M153 LO;M110 LONG LE;M016 DI;M017 DA
  1E840 MENDE KIKAKUI SYLLABLE :M018 DU;M089 DEE;M180 DOO;M181 DO;M022 TI;M023 TA;M024 TU;M091 TEE;M055 TE;M104 TOO
  1E84A MENDE KIKAKUI SYLLABLE :M069 TO;M028 JI;M029 JA;M030 JU;M157 JEE;M113 JE;M160 JOO;M063 JO;M175 LONG JO;M031 YI
  1E854 MENDE KIKAKUI SYLLABLE :M032 YA;M033 YU;M109 YEE;M080 YE;M141 YOO;M121 YO;M034 FI;M035 FA;M036 FU;M078 FEE
  1E85E MENDE KIKAKUI SYLLABLE :M075 FE;M133 FOO;M088 FO;M197 FUA;M101 FAN;M037 NIN;M038 NAN;M039 NUN;M117 NEN
  1E867 MENDE KIKAKUI SYLLABLE :M169 NON;M176 HI;M041 HA;M186 HU;M040 HEE;M096 HE;M042 HOO;M140 HO;M083 HEEI;M128 HOOU
  1E871 MENDE KIKAKUI SYLLABLE :M053 HIN;M130 HAN;M087 HUN;M052 HEN;M193 HON;M046 HUAN;M090 NGGI;M043 NGGA;M082 NGGU
  1E87A MENDE KIKAKUI SYLLABLE :M115 NGGEE;M146 NGGE;M156 NGGOO;M120 NGGO;M159 NGGAA;M127 NGGUA;M086 LONG NGGE
  1E881 MENDE KIKAKUI SYLLABLE :M106 LONG NGGOO;M183 LONG NGGO;M155 GI;M111 GA;M168 GU;M190 GEE;M166 GUEI
  1E888 MENDE KIKAKUI SYLLABLE :M167 GUAN;M184 NGEN;M057 NGON;M177 NGUAN;M068 PI;M099 PA;M050 PU;M081 PEE;M051 PE
  1E891 MENDE KIKAKUI SYLLABLE :M102 POO;M066 PO;M145 MBI;M062 MBA;M122 MBU;M047 MBEE;M188 MBEE;M072 MBE;M172 MBOO
  1E89A MENDE KIKAKUI SYLLABLE :M174 MBO;M187 MBUU;M161 LONG MBE;M105 LONG MBOO;M142 LONG MBO;M132 KPI;M092 KPA
  1E8A1 MENDE KIKAKUI SYLLABLE :M074 KPU;M044 KPEE;M108 KPE;M112 KPOO;M158 KPO;M124 GBI;M056 GBA;M148 GBU;M093 GBEE
  1E8AA MENDE KIKAKUI SYLLABLE :M107 GBE;M071 GBOO;M070 GBO;M171 RA;M123 NDI;M129 NDA;M125 NDU;M191 NDEE;M119 NDE
  1E8B3 MENDE KIKAKUI SYLLABLE :M067 NDOO;M064 NDO;M152 NJA;M192 NJU;M149 NJEE;M134 NJOO;M182 VI;M185 VA;M151 VU
  1E8BC MENDE KIKAKUI SYLLABLE :M173 VEE;M085 VE;M144 VOO;M077 VO;M164 NYIN;M058 NYAN;M170 NYUN;M098 NYEN;M060 NYON
  1E8C7 MENDE KIKAKUI DIGIT :ONE;TWO;THREE;FOUR;FIVE;SIX;SEVEN;EIGHT;NINE
  1E8D0 MENDE KIKAKUI COMBINING NUMBER :TEENS;TENS;HUNDREDS;THOUSANDS;TEN THOUSANDS;HUNDRED THOUSANDS;MILLIONS
  1E900 ADLAM CAPITAL LETTER :ALIF;DAALI;LAAM;MIIM;BA;SINNYIIYHE;PE;BHE;RA
  1E909 ADLAM CAPITAL LETTER :E;FA;I;O;DHA;YHE;WAW;NUN;KAF;YA;U;JIIM;CHI;HA;QAAF;GA;NYA;TU;NHA;VA;KHA;GBE;ZAL;KPO;SHA
  1E922 ADLAM SMALL LETTER :ALIF;DAALI;LAAM;MIIM;BA;SINNYIIYHE;PE;BHE
  1E92A ADLAM SMALL LETTER :RA;E;FA;I;O;DHA;YHE;WAW;NUN;KAF;YA;U;JIIM;CHI;HA;QAAF;GA;NYA;TU;NHA;VA;KHA;GBE;ZAL;KPO;SHA
  1E944 ADLAM :ALIF LENGTHENER;VOWEL LENGTHENER
  1E946 ADLAM :GEMINATION MARK;HAMZA;CONSONANT MODIFIER;GEMINATE CONSONANT MODIFIER;NUKTA;NASALIZATION MARK
  1E950 ADLAM DIGIT :ZERO;ONE;TWO;THREE;FOUR;FIVE;SIX;SEVEN;EIGHT;NINE
  1E95E ADLAM INITIAL :EXCLAMATION MARK;QUESTION MARK
  1EC71 INDIC SIYAQ NUMBER :ONE;TWO;THREE;FOUR;FIVE;SIX;SEVEN;EIGHT;NINE;TEN;TWENTY;THIRTY
  1EC7D INDIC SIYAQ NUMBER :FORTY;FIFTY;SIXTY;SEVENTY;EIGHTY;NINETY;ONE HUNDRED;TWO HUNDRED;THREE HUNDRED;FOUR HUNDRED
  1EC87 INDIC SIYAQ NUMBER :FIVE HUNDRED;SIX HUNDRED;SEVEN HUNDRED;EIGHT HUNDRED;NINE HUNDRED;ONE THOUSAND
  1EC8D INDIC SIYAQ NUMBER :TWO THOUSAND;THREE THOUSAND;FOUR THOUSAND;FIVE THOUSAND;SIX THOUSAND;SEVEN THOUSAND
  1EC93 INDIC SIYAQ NUMBER :EIGHT THOUSAND;NINE THOUSAND;TEN THOUSAND;TWENTY THOUSAND;THIRTY THOUSAND;FORTY THOUSAND
  1EC99 INDIC SIYAQ NUMBER :FIFTY THOUSAND;SIXTY THOUSAND;SEVENTY THOUSAND;EIGHTY THOUSAND;NINETY THOUSAND;LAKH;LAKHAN
  1ECA0 INDIC SIYAQ :LAKH MARK;NUMBER KAROR;NUMBER KARORAN
  1ECA3 INDIC SIYAQ NUMBER PREFIXED :ONE;TWO;THREE;FOUR;FIVE;SIX;SEVEN;EIGHT;NINE
  1ECAC INDIC SIYAQ :PLACEHOLDER;FRACTION ONE QUARTER;FRACTION ONE HALF;FRACTION THREE QUARTERS;RUPEE MARK
  1ECB1 INDIC SIYAQ NUMBER ALTERNATE :ONE;TWO;TEN THOUSAND
  1ECB4 :INDIC SIYAQ ALTERNATE LAKH MARK
  1ED01 OTTOMAN SIYAQ NUMBER :ONE;TWO;THREE;FOUR;FIVE;SIX;SEVEN;EIGHT;NINE;TEN;TWENTY;THIRTY;FORTY
  1ED0E OTTOMAN SIYAQ NUMBER :FIFTY;SIXTY;SEVENTY;EIGHTY;NINETY;ONE HUNDRED;TWO HUNDRED;THREE HUNDRED;FOUR HUNDRED
  1ED17 OTTOMAN SIYAQ NUMBER :FIVE HUNDRED;SIX HUNDRED;SEVEN HUNDRED;EIGHT HUNDRED;NINE HUNDRED;ONE THOUSAND
  1ED1D OTTOMAN SIYAQ NUMBER :TWO THOUSAND;THREE THOUSAND;FOUR THOUSAND;FIVE THOUSAND;SIX THOUSAND;SEVEN THOUSAND
  1ED23 OTTOMAN SIYAQ NUMBER :EIGHT THOUSAND;NINE THOUSAND;TEN THOUSAND;TWENTY THOUSAND;THIRTY THOUSAND;FORTY THOUSAND
  1ED29 OTTOMAN SIYAQ NUMBER :FIFTY THOUSAND;SIXTY THOUSAND;SEVENTY THOUSAND;EIGHTY THOUSAND;NINETY THOUSAND
  1ED2E :OTTOMAN SIYAQ MARRATAN
  1ED2F OTTOMAN SIYAQ ALTERNATE NUMBER :TWO;THREE;FOUR;FIVE
  1ED33 OTTOMAN SIYAQ ALTERNATE NUMBER :SIX;SEVEN;EIGHT;NINE;TEN;FOUR HUNDRED;SIX HUNDRED;TWO THOUSAND;TEN THOUSAND
  1ED3C OTTOMAN SIYAQ FRACTION ONE :HALF;SIXTH
  1EE00 ARABIC MATHEMATICAL :ALEF;BEH;JEEM;DAL
  1EE05 ARABIC MATHEMATICAL :WAW;ZAIN;HAH;TAH;YEH;KAF;LAM;MEEM;NOON;SEEN;AIN;FEH;SAD;QAF;REH
  1EE14 ARABIC MATHEMATICAL :SHEEN;TEH;THEH;KHAH;THAL;DAD;ZAH;GHAIN;DOTLESS BEH;DOTLESS NOON;DOTLESS FEH;DOTLESS QAF
  1EE21 ARABIC MATHEMATICAL INITIAL :BEH;JEEM
  1EE24 :ARABIC MATHEMATICAL INITIAL HEH
  1EE27 :ARABIC MATHEMATICAL INITIAL HAH
  1EE29 ARABIC MATHEMATICAL INITIAL :YEH;KAF;LAM;MEEM;NOON;SEEN;AIN;FEH;SAD;QAF
  1EE34 ARABIC MATHEMATICAL INITIAL :SHEEN;TEH;THEH;KHAH
  1EE39 :ARABIC MATHEMATICAL INITIAL DAD
  1EE3B :ARABIC MATHEMATICAL INITIAL GHAIN
  1EE42 :ARABIC MATHEMATICAL TAILED JEEM
  1EE47 :ARABIC MATHEMATICAL TAILED HAH
  1EE49 :ARABIC MATHEMATICAL TAILED YEH
  1EE4B :ARABIC MATHEMATICAL TAILED LAM
  1EE4D ARABIC MATHEMATICAL TAILED :NOON;SEEN;AIN
  1EE51 ARABIC MATHEMATICAL TAILED :SAD;QAF
  1EE54 :ARABIC MATHEMATICAL TAILED SHEEN
  1EE57 :ARABIC MATHEMATICAL TAILED KHAH
  1EE59 :ARABIC MATHEMATICAL TAILED DAD
  1EE5B :ARABIC MATHEMATICAL TAILED GHAIN
  1EE5D :ARABIC MATHEMATICAL TAILED DOTLESS NOON
  1EE5F :ARABIC MATHEMATICAL TAILED DOTLESS QAF
  1EE61 ARABIC MATHEMATICAL STRETCHED :BEH;JEEM
  1EE64 :ARABIC MATHEMATICAL STRETCHED HEH
  1EE67 ARABIC MATHEMATICAL STRETCHED :HAH;TAH;YEH;KAF
  1EE6C ARABIC MATHEMATICAL STRETCHED :MEEM;NOON;SEEN;AIN;FEH;SAD;QAF
  1EE74 ARABIC MATHEMATICAL STRETCHED :SHEEN;TEH;THEH;KHAH
  1EE79 ARABIC MATHEMATICAL STRETCHED :DAD;ZAH;GHAIN;DOTLESS BEH
  1EE7E :ARABIC MATHEMATICAL STRETCHED DOTLESS FEH
  1EE80 ARABIC MATHEMATICAL LOOPED :ALEF;BEH;JEEM;DAL;HEH;WAW;ZAIN;HAH;TAH;YEH
  1EE8B ARABIC MATHEMATICAL LOOPED :LAM;MEEM;NOON;SEEN;AIN;FEH;SAD;QAF;REH;SHEEN;TEH;THEH;KHAH;THAL;DAD;ZAH;GHAIN
  1EEA1 ARABIC MATHEMATICAL DOUBLE-STRUCK :BEH;JEEM;DAL
  1EEA5 ARABIC MATHEMATICAL DOUBLE-STRUCK :WAW;ZAIN;HAH;TAH;YEH
  1EEAB :ARABIC MATHEMATICAL DOUBLE-STRUCK LAM
  1EEAC ARABIC MATHEMATICAL DOUBLE-STRUCK :MEEM;NOON;SEEN;AIN;FEH;SAD;QAF;REH;SHEEN;TEH;THEH;KHAH;THAL;DAD;ZAH;GHAIN
  1EEF0 ARABIC MATHEMATICAL OPERATOR :MEEM WITH HAH WITH TATWEEL;HAH WITH DAL
  1F000 MAHJONG TILE :EAST WIND;SOUTH WIND;WEST WIND;NORTH WIND;RED DRAGON;GREEN DRAGON
  1F006 MAHJONG TILE :WHITE DRAGON;ONE OF CHARACTERS;TWO OF CHARACTERS;THREE OF CHARACTERS;FOUR OF CHARACTERS
  1F00B MAHJONG TILE :FIVE OF CHARACTERS;SIX OF CHARACTERS;SEVEN OF CHARACTERS;EIGHT OF CHARACTERS;NINE OF CHARACTERS
  1F010 MAHJONG TILE :ONE OF BAMBOOS;TWO OF BAMBOOS;THREE OF BAMBOOS;FOUR OF BAMBOOS;FIVE OF BAMBOOS;SIX OF BAMBOOS
  1F016 MAHJONG TILE :SEVEN OF BAMBOOS;EIGHT OF BAMBOOS;NINE OF BAMBOOS;ONE OF CIRCLES;TWO OF CIRCLES;THREE OF CIRCLES
  1F01C MAHJONG TILE :FOUR OF CIRCLES;FIVE OF CIRCLES;SIX OF CIRCLES;SEVEN OF CIRCLES;EIGHT OF CIRCLES
  1F021 MAHJONG TILE :NINE OF CIRCLES;PLUM;ORCHID;BAMBOO;CHRYSANTHEMUM;SPRING;SUMMER;AUTUMN;WINTER;JOKER;BACK
  1F030 :DOMINO TILE HORIZONTAL BACK
  1F031 DOMINO TILE HORIZONTAL-00-:00;01;02;03;04;05;06
  1F038 DOMINO TILE HORIZONTAL-01-:00;01;02;03;04;05;06
  1F03F DOMINO TILE HORIZONTAL-02-:00;01;02;03;04;05;06
  1F046 DOMINO TILE HORIZONTAL-03-:00;01;02;03;04;05;06
  1F04D DOMINO TILE HORIZONTAL-04-:00;01;02;03;04;05;06
  1F054 DOMINO TILE HORIZONTAL-05-:00;01;02;03;04;05;06
  1F05B DOMINO TILE HORIZONTAL-06-:00;01;02;03;04;05;06
  1F062 :DOMINO TILE VERTICAL BACK
  1F063 DOMINO TILE VERTICAL-00-:00;01;02;03;04;05;06
  1F06A DOMINO TILE VERTICAL-01-:00;01;02;03;04;05;06
  1F071 DOMINO TILE VERTICAL-02-:00;01;02;03;04;05;06
  1F078 DOMINO TILE VERTICAL-03-:00;01;02;03;04;05;06
  1F07F DOMINO TILE VERTICAL-04-:00;01;02;03;04;05;06
  1F086 DOMINO TILE VERTICAL-05-:00;01;02;03;04;05;06
  1F08D DOMINO TILE VERTICAL-06-:00;01;02;03;04;05;06
  1F0A0 PLAYING CARD :BACK;ACE OF SPADES;TWO OF SPADES
  1F0A3 PLAYING CARD :THREE OF SPADES;FOUR OF SPADES;FIVE OF SPADES;SIX OF SPADES;SEVEN OF SPADES;EIGHT OF SPADES
  1F0A9 PLAYING CARD :NINE OF SPADES;TEN OF SPADES;JACK OF SPADES;KNIGHT OF SPADES;QUEEN OF SPADES;KING OF SPADES
  1F0B1 PLAYING CARD :ACE OF HEARTS;TWO OF HEARTS;THREE OF HEARTS
  1F0B4 PLAYING CARD :FOUR OF HEARTS;FIVE OF HEARTS;SIX OF HEARTS;SEVEN OF HEARTS;EIGHT OF HEARTS;NINE OF HEARTS
  1F0BA PLAYING CARD :TEN OF HEARTS;JACK OF HEARTS;KNIGHT OF HEARTS;QUEEN OF HEARTS;KING OF HEARTS;RED JOKER
  1F0C1 PLAYING CARD :ACE OF DIAMONDS;TWO OF DIAMONDS;THREE OF DIAMONDS;FOUR OF DIAMONDS;FIVE OF DIAMONDS
  1F0C6 PLAYING CARD :SIX OF DIAMONDS;SEVEN OF DIAMONDS;EIGHT OF DIAMONDS;NINE OF DIAMONDS;TEN OF DIAMONDS
  1F0CB PLAYING CARD :JACK OF DIAMONDS;KNIGHT OF DIAMONDS;QUEEN OF DIAMONDS;KING OF DIAMONDS;BLACK JOKER
  1F0D1 PLAYING CARD :ACE OF CLUBS;TWO OF CLUBS;THREE OF CLUBS
  1F0D4 PLAYING CARD :FOUR OF CLUBS;FIVE OF CLUBS;SIX OF CLUBS;SEVEN OF CLUBS;EIGHT OF CLUBS;NINE OF CLUBS
  1F0DA PLAYING CARD :TEN OF CLUBS;JACK OF CLUBS;KNIGHT OF CLUBS;QUEEN OF CLUBS;KING OF CLUBS;WHITE JOKER;FOOL
  1F0E1 PLAYING CARD TRUMP-:1;2;3;4;5;6;7;8;9;10;11;12;13;14;15;16;17;18;19;20;21
  1F100 DIGIT ZERO :FULL STOP;COMMA
  1F102 DIGIT :ONE COMMA;TWO COMMA;THREE COMMA;FOUR COMMA;FIVE COMMA;SIX COMMA;SEVEN COMMA;EIGHT COMMA;NINE COMMA
  1F10B DINGBAT :CIRCLED SANS-SERIF DIGIT ZERO;NEGATIVE CIRCLED SANS-SERIF DIGIT ZERO
  1F10D CIRCLED :ZERO WITH SLASH;ANTICLOCKWISE ARROW;DOLLAR SIGN WITH OVERLAID BACKSLASH
  1F110 PARENTHESIZED LATIN CAPITAL LETTER :A;B;C;D;E;F;G;H;I;J;K;L;M;N;O;P;Q;R;S;T;U;V;W;X;Y;Z
  1F12A :TORTOISE SHELL BRACKETED LATIN CAPITAL LETTER S
  1F12B CIRCLED ITALIC LATIN CAPITAL LETTER :C;R
  1F12D :CIRCLED CD;CIRCLED WZ;COPYLEFT SYMBOL
  1F130 SQUARED LATIN CAPITAL LETTER :A;B;C;D;E;F;G;H;I;J;K;L;M;N;O;P;Q;R;S;T;U;V;W;X;Y;Z
  1F14A SQUARED :HV;MV;SD;SS;PPV;WC
  1F150 NEGATIVE CIRCLED LATIN CAPITAL LETTER :A;B;C;D;E;F;G;H;I;J;K;L;M;N;O;P;Q;R;S;T;U;V;W;X;Y;Z
  1F16A RAISED :MC SIGN;MD SIGN;MR SIGN
  1F16D CIRCLED :CC;C WITH OVERLAID BACKSLASH;HUMAN FIGURE
  1F170 NEGATIVE SQUARED LATIN CAPITAL LETTER :A;B;C;D;E;F;G;H;I;J;K;L;M;N;O;P;Q;R;S;T;U;V;W;X;Y;Z
  1F18A :CROSSED NEGATIVE SQUARED LATIN CAPITAL LETTER P
  1F18B NEGATIVE SQUARED :IC;PA;SA;AB;WC
  1F190 :SQUARE DJ
  1F191 SQUARED :CL;COOL;FREE;ID;NEW;NG;OK;SOS;UP WITH EXCLAMATION MARK
  1F19A SQUARED :VS;THREE D;SECOND SCREEN;TWO K;FOUR K;EIGHT K;FIVE POINT ONE;SEVEN POINT ONE;TWENTY-TWO POINT TWO
  1F1A3 SQUARED :SIXTY P;ONE HUNDRED TWENTY P;LATIN SMALL LETTER D;HC;HDR;HI-RES;LOSSLESS;SHV;UHD;VOD
  1F1AD :MASK WORK SYMBOL
  1F1E6 REGIONAL INDICATOR SYMBOL LETTER :A;B;C;D;E;F;G;H;I;J;K;L;M;N;O;P;Q;R;S;T;U;V;W;X;Y;Z
  1F200 :SQUARE HIRAGANA HOKA
  1F201 SQUARED KATAKANA :KOKO;SA
  1F210 SQUARED CJK UNIFIED IDEOGRAPH-:624B;5B57;53CC
  1F213 :SQUARED KATAKANA DE
  1F214 SQUARED CJK UNIFIED IDEOGRAPH-:4E8C;591A;89E3;5929;4EA4;6620;7121;6599
  1F21C SQUARED CJK UNIFIED IDEOGRAPH-:524D;5F8C;518D;65B0;521D;7D42;751F;8CA9;58F0;5439;6F14;6295;6355;4E00;4E09;904A
  1F22C SQUARED CJK UNIFIED IDEOGRAPH-:5DE6;4E2D;53F3;6307;8D70;6253;7981;7A7A;5408;6E80;6709;6708;7533;5272;55B6;914D
  1F240 TORTOISE SHELL BRACKETED CJK UNIFIED IDEOGRAPH-:672C;4E09;4E8C;5B89;70B9;6253;76D7;52DD;6557
  1F250 CIRCLED IDEOGRAPH :ADVANTAGE;ACCEPT
  1F260 ROUNDED SYMBOL FOR :FU;LU;SHOU;XI;SHUANGXI;CAI
  1F300 :CYCLONE;FOGGY;CLOSED UMBRELLA;NIGHT WITH STARS;SUNRISE OVER MOUNTAINS
  1F305 :SUNRISE;CITYSCAPE AT DUSK;SUNSET OVER BUILDINGS;RAINBOW;BRIDGE AT NIGHT;WATER WAVE;VOLCANO;MILKY WAY
  1F30D EARTH GLOBE :EUROPE-AFRICA;AMERICAS;ASIA-AUSTRALIA
  1F310 :GLOBE WITH MERIDIANS
  1F311 :NEW MOON SYMBOL;WAXING CRESCENT MOON SYMBOL;FIRST QUARTER MOON SYMBOL;WAXING GIBBOUS MOON SYMBOL
  1F315 :FULL MOON SYMBOL;WANING GIBBOUS MOON SYMBOL;LAST QUARTER MOON SYMBOL;WANING CRESCENT MOON SYMBOL
  1F319 :CRESCENT MOON;NEW MOON WITH FACE;FIRST QUARTER MOON WITH FACE;LAST QUARTER MOON WITH FACE
  1F31D :FULL MOON WITH FACE;SUN WITH FACE;GLOWING STAR;SHOOTING STAR;THERMOMETER;BLACK DROPLET;WHITE SUN
  1F324 WHITE SUN :WITH SMALL CLOUD;BEHIND CLOUD;BEHIND CLOUD WITH RAIN
  1F327 CLOUD WITH :RAIN;SNOW;LIGHTNING;TORNADO
  1F32B :FOG;WIND BLOWING FACE;HOT DOG;TACO;BURRITO;CHESTNUT;SEEDLING;EVERGREEN TREE;DECIDUOUS TREE
  1F334 :PALM TREE;CACTUS;HOT PEPPER;TULIP;CHERRY BLOSSOM;ROSE;HIBISCUS;SUNFLOWER;BLOSSOM;EAR OF MAIZE;EAR OF RICE
  1F33F :HERB;FOUR LEAF CLOVER;MAPLE LEAF;FALLEN LEAF;LEAF FLUTTERING IN WIND;MUSHROOM;TOMATO;AUBERGINE;GRAPES;MELON
  1F349 :WATERMELON;TANGERINE;LEMON;BANANA;PINEAPPLE;RED APPLE;GREEN APPLE;PEAR;PEACH;CHERRIES;STRAWBERRY;HAMBURGER
  1F355 :SLICE OF PIZZA;MEAT ON BONE;POULTRY LEG;RICE CRACKER;RICE BALL;COOKED RICE;CURRY AND RICE;STEAMING BOWL
  1F35D :SPAGHETTI;BREAD;FRENCH FRIES;ROASTED SWEET POTATO;DANGO;ODEN;SUSHI;FRIED SHRIMP;FISH CAKE WITH SWIRL DESIGN
  1F366 :SOFT ICE CREAM;SHAVED ICE;ICE CREAM;DOUGHNUT;COOKIE;CHOCOLATE BAR;CANDY;LOLLIPOP;CUSTARD
  1F36F :HONEY POT;SHORTCAKE;BENTO BOX;POT OF FOOD;COOKING;FORK AND KNIFE;TEACUP WITHOUT HANDLE;SAKE BOTTLE AND CUP
  1F377 :WINE GLASS;COCKTAIL GLASS;TROPICAL DRINK;BEER MUG;CLINKING BEER MUGS;BABY BOTTLE;FORK AND KNIFE WITH PLATE
  1F37E :BOTTLE WITH POPPING CORK;POPCORN;RIBBON;WRAPPED PRESENT;BIRTHDAY CAKE;JACK-O-LANTERN;CHRISTMAS TREE
  1F385 :FATHER CHRISTMAS;FIREWORKS;FIREWORK SPARKLER;BALLOON;PARTY POPPER;CONFETTI BALL;TANABATA TREE;CROSSED FLAGS
  1F38D :PINE DECORATION;JAPANESE DOLLS;CARP STREAMER;WIND CHIME;MOON VIEWING CEREMONY;SCHOOL SATCHEL;GRADUATION CAP
  1F394 :HEART WITH TIP ON THE LEFT;BOUQUET OF FLOWERS;MILITARY MEDAL;REMINDER RIBBON;MUSICAL KEYBOARD WITH JACKS
  1F399 :STUDIO MICROPHONE;LEVEL SLIDER;CONTROL KNOBS;BEAMED ASCENDING MUSICAL NOTES;BEAMED DESCENDING MUSICAL NOTES
  1F39E :FILM FRAMES;ADMISSION TICKETS;CAROUSEL HORSE;FERRIS WHEEL;ROLLER COASTER;FISHING POLE AND FISH
  1F3A4 :MICROPHONE;MOVIE CAMERA;CINEMA;HEADPHONE;ARTIST PALETTE;TOP HAT;CIRCUS TENT;TICKET;CLAPPER BOARD
  1F3AD :PERFORMING ARTS;VIDEO GAME;DIRECT HIT;SLOT MACHINE;BILLIARDS;GAME DIE;BOWLING;FLOWER PLAYING CARDS
  1F3B5 :MUSICAL NOTE;MULTIPLE MUSICAL NOTES;SAXOPHONE;GUITAR;MUSICAL KEYBOARD;TRUMPET;VIOLIN;MUSICAL SCORE
  1F3BD :RUNNING SHIRT WITH SASH;TENNIS RACQUET AND BALL;SKI AND SKI BOOT;BASKETBALL AND HOOP;CHEQUERED FLAG
  1F3C2 :SNOWBOARDER;RUNNER;SURFER;SPORTS MEDAL;TROPHY;HORSE RACING;AMERICAN FOOTBALL;RUGBY FOOTBALL;SWIMMER
  1F3CB :WEIGHT LIFTER;GOLFER;RACING MOTORCYCLE;RACING CAR;CRICKET BAT AND BALL;VOLLEYBALL;FIELD HOCKEY STICK AND BALL
  1F3D2 :ICE HOCKEY STICK AND PUCK;TABLE TENNIS PADDLE AND BALL;SNOW CAPPED MOUNTAIN;CAMPING;BEACH WITH UMBRELLA
  1F3D7 :BUILDING CONSTRUCTION;HOUSE BUILDINGS;CITYSCAPE;DERELICT HOUSE BUILDING;CLASSICAL BUILDING;DESERT
  1F3DD :DESERT ISLAND;NATIONAL PARK;STADIUM;HOUSE BUILDING;HOUSE WITH GARDEN;OFFICE BUILDING;JAPANESE POST OFFICE
  1F3E4 :EUROPEAN POST OFFICE;HOSPITAL;BANK;AUTOMATED TELLER MACHINE;HOTEL;LOVE HOTEL;CONVENIENCE STORE
  1F3EB :SCHOOL;DEPARTMENT STORE;FACTORY;IZAKAYA LANTERN;JAPANESE CASTLE;EUROPEAN CASTLE;WHITE PENNANT;BLACK PENNANT
  1F3F3 WAVING :WHITE FLAG;BLACK FLAG
  1F3F5 :ROSETTE;BLACK ROSETTE;LABEL;BADMINTON RACQUET AND SHUTTLECOCK;BOW AND ARROW;AMPHORA
  1F3FB EMOJI MODIFIER FITZPATRICK TYPE-:1-2;3;4;5;6
  1F400 :RAT;MOUSE;OX;WATER BUFFALO;COW;TIGER;LEOPARD;RABBIT;CAT;DRAGON;CROCODILE;WHALE;SNAIL;SNAKE;HORSE
  1F40F :RAM;GOAT;SHEEP;MONKEY;ROOSTER;CHICKEN;DOG;PIG;BOAR;ELEPHANT;OCTOPUS;SPIRAL SHELL;BUG;ANT;HONEYBEE;LADY BEETLE
  1F41F :FISH;TROPICAL FISH;BLOWFISH;TURTLE;HATCHING CHICK;BABY CHICK;FRONT-FACING BABY CHICK;BIRD;PENGUIN;KOALA
  1F429 :POODLE;DROMEDARY CAMEL;BACTRIAN CAMEL;DOLPHIN;MOUSE FACE;COW FACE;TIGER FACE;RABBIT FACE;CAT FACE;DRAGON FACE
  1F433 :SPOUTING WHALE;HORSE FACE;MONKEY FACE;DOG FACE;PIG FACE;FROG FACE;HAMSTER FACE;WOLF FACE;BEAR FACE
  1F43C :PANDA FACE;PIG NOSE;PAW PRINTS;CHIPMUNK;EYES;EYE;EAR;NOSE;MOUTH;TONGUE;WHITE UP POINTING BACKHAND INDEX
  1F447 WHITE :DOWN POINTING BACKHAND INDEX;LEFT POINTING BACKHAND INDEX;RIGHT POINTING BACKHAND INDEX
  1F44A :FISTED HAND SIGN;WAVING HAND SIGN;OK HAND SIGN;THUMBS UP SIGN;THUMBS DOWN SIGN
  1F44F :CLAPPING HANDS SIGN;OPEN HANDS SIGN;CROWN;WOMANS HAT;EYEGLASSES;NECKTIE;T-SHIRT;JEANS;DRESS;KIMONO
  1F459 :BIKINI;WOMANS CLOTHES;PURSE;HANDBAG;POUCH;MANS SHOE;ATHLETIC SHOE;HIGH-HEELED SHOE;WOMANS SANDAL;WOMANS BOOTS
  1F463 :FOOTPRINTS;BUST IN SILHOUETTE;BUSTS IN SILHOUETTE;BOY;GIRL;MAN;WOMAN;FAMILY;MAN AND WOMAN HOLDING HANDS
  1F46C TWO :MEN HOLDING HANDS;WOMEN HOLDING HANDS
  1F46E :POLICE OFFICER;WOMAN WITH BUNNY EARS;BRIDE WITH VEIL;PERSON WITH BLOND HAIR
  1F472 MAN WITH :GUA PI MAO;TURBAN
  1F474 OLDER :MAN;WOMAN
  1F476 :BABY;CONSTRUCTION WORKER;PRINCESS;JAPANESE OGRE;JAPANESE GOBLIN;GHOST;BABY ANGEL;EXTRATERRESTRIAL ALIEN
  1F47E :ALIEN MONSTER;IMP;SKULL;INFORMATION DESK PERSON;GUARDSMAN;DANCER;LIPSTICK;NAIL POLISH;FACE MASSAGE
  1F487 :HAIRCUT;BARBER POLE;SYRINGE;PILL;KISS MARK;LOVE LETTER;RING;GEM STONE;KISS;BOUQUET;COUPLE WITH HEART
  1F492 :WEDDING;BEATING HEART;BROKEN HEART;TWO HEARTS;SPARKLING HEART;GROWING HEART;HEART WITH ARROW
  1F499 :BLUE HEART;GREEN HEART;YELLOW HEART;PURPLE HEART;HEART WITH RIBBON;REVOLVING HEARTS;HEART DECORATION
  1F4A0 :DIAMOND SHAPE WITH A DOT INSIDE;ELECTRIC LIGHT BULB;ANGER SYMBOL;BOMB;SLEEPING SYMBOL;COLLISION SYMBOL
  1F4A6 :SPLASHING SWEAT SYMBOL;DROPLET;DASH SYMBOL;PILE OF POO;FLEXED BICEPS;DIZZY SYMBOL;SPEECH BALLOON
  1F4AD :THOUGHT BALLOON;WHITE FLOWER;HUNDRED POINTS SYMBOL;MONEY BAG;CURRENCY EXCHANGE;HEAVY DOLLAR SIGN;CREDIT CARD
  1F4B4 BANKNOTE WITH :YEN SIGN;DOLLAR SIGN;EURO SIGN;POUND SIGN
  1F4B8 :MONEY WITH WINGS;CHART WITH UPWARDS TREND AND YEN SIGN;SEAT;PERSONAL COMPUTER
  1F4BC :BRIEFCASE;MINIDISC;FLOPPY DISK;OPTICAL DISC;DVD;FILE FOLDER;OPEN FILE FOLDER;PAGE WITH CURL;PAGE FACING UP
  1F4C5 :CALENDAR;TEAR-OFF CALENDAR;CARD INDEX;CHART WITH UPWARDS TREND;CHART WITH DOWNWARDS TREND;BAR CHART
  1F4CB :CLIPBOARD;PUSHPIN;ROUND PUSHPIN;PAPERCLIP;STRAIGHT RULER;TRIANGULAR RULER;BOOKMARK TABS;LEDGER;NOTEBOOK
  1F4D4 :NOTEBOOK WITH DECORATIVE COVER;CLOSED BOOK;OPEN BOOK;GREEN BOOK;BLUE BOOK;ORANGE BOOK;BOOKS;NAME BADGE;SCROLL
  1F4DD :MEMO;TELEPHONE RECEIVER;PAGER;FAX MACHINE;SATELLITE ANTENNA;PUBLIC ADDRESS LOUDSPEAKER;CHEERING MEGAPHONE
  1F4E4 :OUTBOX TRAY;INBOX TRAY;PACKAGE;E-MAIL SYMBOL;INCOMING ENVELOPE;ENVELOPE WITH DOWNWARDS ARROW ABOVE
  1F4EA CLOSED MAILBOX WITH :LOWERED FLAG;RAISED FLAG
  1F4EC OPEN MAILBOX WITH :RAISED FLAG;LOWERED FLAG
  1F4EE :POSTBOX;POSTAL HORN;NEWSPAPER;MOBILE PHONE;MOBILE PHONE WITH RIGHTWARDS ARROW AT LEFT
  1F4F3 :VIBRATION MODE;MOBILE PHONE OFF;NO MOBILE PHONES;ANTENNA WITH BARS;CAMERA;CAMERA WITH FLASH;VIDEO CAMERA
  1F4FA :TELEVISION;RADIO;VIDEOCASSETTE;FILM PROJECTOR;PORTABLE STEREO;PRAYER BEADS;TWISTED RIGHTWARDS ARROWS
  1F501 CLOCKWISE RIGHTWARDS AND LEFTWARDS OPEN CIRCLE :ARROWS;ARROWS WITH CIRCLED ONE OVERLAY
  1F503 :CLOCKWISE DOWNWARDS AND UPWARDS OPEN CIRCLE ARROWS;ANTICLOCKWISE DOWNWARDS AND UPWARDS OPEN CIRCLE ARROWS
  1F505 :LOW BRIGHTNESS SYMBOL;HIGH BRIGHTNESS SYMBOL;SPEAKER WITH CANCELLATION STROKE;SPEAKER
  1F509 SPEAKER WITH :ONE SOUND WAVE;THREE SOUND WAVES
  1F50B :BATTERY;ELECTRIC PLUG;LEFT-POINTING MAGNIFYING GLASS
  1F50E :RIGHT-POINTING MAGNIFYING GLASS;LOCK WITH INK PEN;CLOSED LOCK WITH KEY;KEY;LOCK;OPEN LOCK
  1F514 :BELL;BELL WITH CANCELLATION STROKE;BOOKMARK;LINK SYMBOL;RADIO BUTTON;BACK WITH LEFTWARDS ARROW ABOVE
  1F51A :END WITH LEFTWARDS ARROW ABOVE;ON WITH EXCLAMATION MARK WITH LEFT RIGHT ARROW ABOVE
  1F51C :SOON WITH RIGHTWARDS ARROW ABOVE;TOP WITH UPWARDS ARROW ABOVE;NO ONE UNDER EIGHTEEN SYMBOL;KEYCAP TEN
  1F520 INPUT SYMBOL FOR :LATIN CAPITAL LETTERS;LATIN SMALL LETTERS;NUMBERS;SYMBOLS;LATIN LETTERS
  1F525 :FIRE;ELECTRIC TORCH
  1F527 :WRENCH;HAMMER;NUT AND BOLT;HOCHO;PISTOL;MICROSCOPE;TELESCOPE;CRYSTAL BALL;SIX POINTED STAR WITH MIDDLE DOT
  1F530 :JAPANESE SYMBOL FOR BEGINNER;TRIDENT EMBLEM;BLACK SQUARE BUTTON;WHITE SQUARE BUTTON
  1F534 LARGE :RED CIRCLE;BLUE CIRCLE;ORANGE DIAMOND;BLUE DIAMOND
  1F538 :SMALL ORANGE DIAMOND;SMALL BLUE DIAMOND;UP-POINTING RED TRIANGLE;DOWN-POINTING RED TRIANGLE
  1F53C :UP-POINTING SMALL RED TRIANGLE;DOWN-POINTING SMALL RED TRIANGLE;LOWER RIGHT SHADOWED WHITE CIRCLE
  1F53F :UPPER RIGHT SHADOWED WHITE CIRCLE;CIRCLED CROSS POMMEE;CROSS POMMEE WITH HALF-CIRCLE BELOW;CROSS POMMEE
  1F543 NOTCHED :LEFT SEMICIRCLE WITH THREE DOTS;RIGHT SEMICIRCLE WITH THREE DOTS
  1F545 :SYMBOL FOR MARKS CHAPTER;WHITE LATIN CROSS;HEAVY LATIN CROSS;CELTIC CROSS;OM SYMBOL
  1F54A :DOVE OF PEACE;KAABA;MOSQUE;SYNAGOGUE;MENORAH WITH NINE BRANCHES;BOWL OF HYGIEIA;CLOCK FACE ONE OCLOCK
  1F551 CLOCK FACE :TWO OCLOCK;THREE OCLOCK;FOUR OCLOCK;FIVE OCLOCK;SIX OCLOCK;SEVEN OCLOCK;EIGHT OCLOCK;NINE OCLOCK
  1F559 CLOCK FACE :TEN OCLOCK;ELEVEN OCLOCK;TWELVE OCLOCK;ONE-THIRTY;TWO-THIRTY;THREE-THIRTY;FOUR-THIRTY;FIVE-THIRTY
  1F561 CLOCK FACE :SIX-THIRTY;SEVEN-THIRTY;EIGHT-THIRTY;NINE-THIRTY;TEN-THIRTY;ELEVEN-THIRTY;TWELVE-THIRTY
  1F568 RIGHT :SPEAKER;SPEAKER WITH ONE SOUND WAVE;SPEAKER WITH THREE SOUND WAVES
  1F56B :BULLHORN;BULLHORN WITH SOUND WAVES;RINGING BELL
  1F56E :BOOK;CANDLE;MANTELPIECE CLOCK;BLACK SKULL AND CROSSBONES;NO PIRACY;HOLE;MAN IN BUSINESS SUIT LEVITATING
  1F575 :SLEUTH OR SPY;DARK SUNGLASSES;SPIDER;SPIDER WEB;JOYSTICK;MAN DANCING;LEFT HAND TELEPHONE RECEIVER
  1F57C :TELEPHONE RECEIVER WITH PAGE;RIGHT HAND TELEPHONE RECEIVER;WHITE TOUCHTONE TELEPHONE
  1F57F :BLACK TOUCHTONE TELEPHONE;TELEPHONE ON TOP OF MODEM;CLAMSHELL MOBILE PHONE;BACK OF ENVELOPE;STAMPED ENVELOPE
  1F584 :ENVELOPE WITH LIGHTNING;FLYING ENVELOPE;PEN OVER STAMPED ENVELOPE;LINKED PAPERCLIPS;BLACK PUSHPIN
  1F589 LOWER LEFT :PENCIL;BALLPOINT PEN;FOUNTAIN PEN;PAINTBRUSH;CRAYON
  1F58E :LEFT WRITING HAND
  1F58F :TURNED OK HAND SIGN;RAISED HAND WITH FINGERS SPLAYED;REVERSED RAISED HAND WITH FINGERS SPLAYED
  1F592 REVERSED :THUMBS UP SIGN;THUMBS DOWN SIGN;VICTORY HAND;HAND WITH MIDDLE FINGER EXTENDED
  1F596 :RAISED HAND WITH PART BETWEEN MIDDLE AND RING FINGERS;WHITE DOWN POINTING LEFT HAND INDEX
  1F598 SIDEWAYS WHITE :LEFT POINTING INDEX;RIGHT POINTING INDEX
  1F59A SIDEWAYS BLACK :LEFT POINTING INDEX;RIGHT POINTING INDEX
  1F59C BLACK :LEFT POINTING BACKHAND INDEX;RIGHT POINTING BACKHAND INDEX
  1F59E SIDEWAYS :WHITE UP POINTING INDEX;WHITE DOWN POINTING INDEX;BLACK UP POINTING INDEX;BLACK DOWN POINTING INDEX
  1F5A2 BLACK :UP POINTING BACKHAND INDEX;DOWN POINTING BACKHAND INDEX;HEART
  1F5A5 :DESKTOP COMPUTER;KEYBOARD AND MOUSE
  1F5A7 :THREE NETWORKED COMPUTERS;PRINTER;POCKET CALCULATOR;BLACK HARD SHELL FLOPPY DISK;WHITE HARD SHELL FLOPPY DISK
  1F5AC :SOFT SHELL FLOPPY DISK;TAPE CARTRIDGE;WIRED KEYBOARD;ONE BUTTON MOUSE;TWO BUTTON MOUSE
  1F5B1 :THREE BUTTON MOUSE;TRACKBALL;OLD PERSONAL COMPUTER;HARD DISK;SCREEN;PRINTER ICON;FAX ICON;OPTICAL DISC ICON
  1F5B9 DOCUMENT WITH :TEXT;TEXT AND PICTURE;PICTURE
  1F5BC FRAME WITH :PICTURE;TILES;AN X
  1F5BF :BLACK FOLDER;FOLDER;OPEN FOLDER;CARD INDEX DIVIDERS;CARD FILE BOX;FILE CABINET
  1F5C5 EMPTY :NOTE;NOTE PAGE;NOTE PAD
  1F5C8 :NOTE;NOTE PAGE;NOTE PAD;EMPTY DOCUMENT;EMPTY PAGE;EMPTY PAGES;DOCUMENT;PAGE;PAGES;WASTEBASKET;SPIRAL NOTE PAD
  1F5D3 :SPIRAL CALENDAR PAD;DESKTOP WINDOW;MINIMIZE;MAXIMIZE;OVERLAP;CLOCKWISE RIGHT AND LEFT SEMICIRCLE ARROWS
  1F5D9 :CANCELLATION X;INCREASE FONT SIZE SYMBOL;DECREASE FONT SIZE SYMBOL;COMPRESSION
  1F5DD :OLD KEY;ROLLED-UP NEWSPAPER;PAGE WITH CIRCLED TEXT;STOCK CHART;DAGGER KNIFE;LIPS;SPEAKING HEAD IN SILHOUETTE
  1F5E4 THREE RAYS :ABOVE;BELOW;LEFT;RIGHT
  1F5E8 :LEFT SPEECH BUBBLE;RIGHT SPEECH BUBBLE;TWO SPEECH BUBBLES;THREE SPEECH BUBBLES
  1F5EC :LEFT THOUGHT BUBBLE;RIGHT THOUGHT BUBBLE;LEFT ANGER BUBBLE;RIGHT ANGER BUBBLE;MOOD BUBBLE
  1F5F1 LIGHTNING :MOOD BUBBLE;MOOD
  1F5F3 BALLOT :BOX WITH BALLOT;SCRIPT X;BOX WITH SCRIPT X;BOLD SCRIPT X;BOX WITH BOLD SCRIPT X
  1F5F8 :LIGHT CHECK MARK;BALLOT BOX WITH BOLD CHECK;WORLD MAP;MOUNT FUJI;TOKYO TOWER;STATUE OF LIBERTY
  1F5FE :SILHOUETTE OF JAPAN;MOYAI;GRINNING FACE;GRINNING FACE WITH SMILING EYES;FACE WITH TEARS OF JOY
  1F603 SMILING FACE WITH OPEN :MOUTH;MOUTH AND SMILING EYES;MOUTH AND COLD SWEAT;MOUTH AND TIGHTLY-CLOSED EYES
  1F607 SMILING FACE WITH :HALO;HORNS
  1F609 :WINKING FACE;SMILING FACE WITH SMILING EYES;FACE SAVOURING DELICIOUS FOOD;RELIEVED FACE
  1F60D SMILING FACE WITH :HEART-SHAPED EYES;SUNGLASSES
  1F60F :SMIRKING FACE;NEUTRAL FACE;EXPRESSIONLESS FACE;UNAMUSED FACE
  1F613 :FACE WITH COLD SWEAT;PENSIVE FACE;CONFUSED FACE;CONFOUNDED FACE;KISSING FACE;FACE THROWING A KISS
  1F619 KISSING FACE WITH :SMILING EYES;CLOSED EYES
  1F61B FACE WITH STUCK-OUT :TONGUE;TONGUE AND WINKING EYE;TONGUE AND TIGHTLY-CLOSED EYES
  1F61E :DISAPPOINTED FACE;WORRIED FACE;ANGRY FACE;POUTING FACE;CRYING FACE;PERSEVERING FACE;FACE WITH LOOK OF TRIUMPH
  1F625 :DISAPPOINTED BUT RELIEVED FACE;FROWNING FACE WITH OPEN MOUTH;ANGUISHED FACE;FEARFUL FACE
  1F629 :WEARY FACE;SLEEPY FACE;TIRED FACE;GRIMACING FACE;LOUDLY CRYING FACE;FACE WITH OPEN MOUTH;HUSHED FACE
  1F630 FACE :WITH OPEN MOUTH AND COLD SWEAT;SCREAMING IN FEAR
  1F632 :ASTONISHED FACE;FLUSHED FACE;SLEEPING FACE;DIZZY FACE
  1F636 :FACE WITHOUT MOUTH;FACE WITH MEDICAL MASK;GRINNING CAT FACE WITH SMILING EYES;CAT FACE WITH TEARS OF JOY
  1F63A SMILING CAT FACE WITH :OPEN MOUTH;HEART-SHAPED EYES
  1F63C :CAT FACE WITH WRY SMILE;KISSING CAT FACE WITH CLOSED EYES
  1F63E :POUTING CAT FACE;CRYING CAT FACE;WEARY CAT FACE;SLIGHTLY FROWNING FACE;SLIGHTLY SMILING FACE;UPSIDE-DOWN FACE
  1F644 FACE WITH :ROLLING EYES;NO GOOD GESTURE;OK GESTURE
  1F647 :PERSON BOWING DEEPLY
  1F648 :SEE-NO-EVIL MONKEY;HEAR-NO-EVIL MONKEY;SPEAK-NO-EVIL MONKEY;HAPPY PERSON RAISING ONE HAND
  1F64C PERSON :RAISING BOTH HANDS IN CELEBRATION;FROWNING;WITH POUTING FACE;WITH FOLDED HANDS
  1F650 :NORTH WEST POINTING LEAF;SOUTH WEST POINTING LEAF;NORTH EAST POINTING LEAF;SOUTH EAST POINTING LEAF
  1F654 TURNED :NORTH WEST POINTING LEAF;SOUTH WEST POINTING LEAF;NORTH EAST POINTING LEAF;SOUTH EAST POINTING LEAF
  1F658 :NORTH WEST POINTING VINE LEAF;SOUTH WEST POINTING VINE LEAF
  1F65A :NORTH EAST POINTING VINE LEAF;SOUTH EAST POINTING VINE LEAF;HEAVY NORTH WEST POINTING VINE LEAF
  1F65D HEAVY :SOUTH WEST POINTING VINE LEAF;NORTH EAST POINTING VINE LEAF;SOUTH EAST POINTING VINE LEAF
  1F660 :NORTH WEST POINTING BUD;SOUTH WEST POINTING BUD;NORTH EAST POINTING BUD;SOUTH EAST POINTING BUD
  1F664 HEAVY :NORTH WEST POINTING BUD;SOUTH WEST POINTING BUD;NORTH EAST POINTING BUD;SOUTH EAST POINTING BUD
  1F668 HOLLOW QUILT SQUARE :ORNAMENT;ORNAMENT IN BLACK SQUARE
  1F66A SOLID QUILT SQUARE :ORNAMENT;ORNAMENT IN BLACK SQUARE
  1F66C :LEFTWARDS ROCKET;UPWARDS ROCKET
  1F66E :RIGHTWARDS ROCKET;DOWNWARDS ROCKET;SCRIPT LIGATURE ET ORNAMENT;HEAVY SCRIPT LIGATURE ET ORNAMENT
  1F672 :LIGATURE OPEN ET ORNAMENT;HEAVY LIGATURE OPEN ET ORNAMENT;HEAVY AMPERSAND ORNAMENT;SWASH AMPERSAND ORNAMENT
  1F676 SANS-SERIF HEAVY DOUBLE :TURNED COMMA QUOTATION MARK ORNAMENT;COMMA QUOTATION MARK ORNAMENT
  1F678 :SANS-SERIF HEAVY LOW DOUBLE COMMA QUOTATION MARK ORNAMENT
  1F679 :HEAVY INTERROBANG ORNAMENT;SANS-SERIF INTERROBANG ORNAMENT;HEAVY SANS-SERIF INTERROBANG ORNAMENT
  1F67C VERY HEAVY :SOLIDUS;REVERSE SOLIDUS
  1F67E :CHECKER BOARD;REVERSE CHECKER BOARD;ROCKET;HELICOPTER;STEAM LOCOMOTIVE;RAILWAY CAR
  1F684 HIGH-SPEED :TRAIN;TRAIN WITH BULLET NOSE
  1F686 :TRAIN;METRO;LIGHT RAIL;STATION;TRAM;TRAM CAR;BUS;ONCOMING BUS;TROLLEYBUS;BUS STOP;MINIBUS
  1F691 :AMBULANCE;FIRE ENGINE;POLICE CAR;ONCOMING POLICE CAR;TAXI;ONCOMING TAXI;AUTOMOBILE;ONCOMING AUTOMOBILE
  1F699 :RECREATIONAL VEHICLE;DELIVERY TRUCK;ARTICULATED LORRY;TRACTOR;MONORAIL;MOUNTAIN RAILWAY;SUSPENSION RAILWAY
  1F6A0 :MOUNTAIN CABLEWAY;AERIAL TRAMWAY;SHIP;ROWBOAT;SPEEDBOAT;HORIZONTAL TRAFFIC LIGHT;VERTICAL TRAFFIC LIGHT
  1F6A7 :CONSTRUCTION SIGN;POLICE CARS REVOLVING LIGHT;TRIANGULAR FLAG ON POST;DOOR;NO ENTRY SIGN
  1F6AC :SMOKING SYMBOL;NO SMOKING SYMBOL;PUT LITTER IN ITS PLACE SYMBOL;DO NOT LITTER SYMBOL;POTABLE WATER SYMBOL
  1F6B1 :NON-POTABLE WATER SYMBOL;BICYCLE;NO BICYCLES;BICYCLIST;MOUNTAIN BICYCLIST;PEDESTRIAN;NO PEDESTRIANS
  1F6B8 :CHILDREN CROSSING;MENS SYMBOL;WOMENS SYMBOL;RESTROOM;BABY SYMBOL;TOILET;WATER CLOSET;SHOWER;BATH
  1F6C1 :BATHTUB;PASSPORT CONTROL;CUSTOMS;BAGGAGE CLAIM;LEFT LUGGAGE;TRIANGLE WITH ROUNDED CORNERS;PROHIBITED SIGN
  1F6C8 :CIRCLED INFORMATION SOURCE;BOYS SYMBOL;GIRLS SYMBOL;COUCH AND LAMP;SLEEPING ACCOMMODATION;SHOPPING BAGS
  1F6CE :BELLHOP BELL;BED;PLACE OF WORSHIP;OCTAGONAL SIGN;SHOPPING TROLLEY;STUPA;PAGODA;HINDU TEMPLE;HUT;ELEVATOR
  1F6DD :PLAYGROUND SLIDE;WHEEL;RING BUOY;HAMMER AND WRENCH;SHIELD;OIL DRUM;MOTORWAY;RAILWAY TRACK;MOTOR BOAT
  1F6E6 UP-POINTING :MILITARY AIRPLANE;AIRPLANE;SMALL AIRPLANE
  1F6E9 :SMALL AIRPLANE;NORTHEAST-POINTING AIRPLANE
  1F6EB AIRPLANE :DEPARTURE;ARRIVING
  1F6F0 :SATELLITE;ONCOMING FIRE ENGINE;DIESEL LOCOMOTIVE;PASSENGER SHIP
  1F6F4 :SCOOTER;MOTOR SCOOTER;CANOE;SLED;FLYING SAUCER;SKATEBOARD;AUTO RICKSHAW;PICKUP TRUCK;ROLLER SKATE
  1F700 ALCHEMICAL SYMBOL FOR :QUINTESSENCE;AIR;FIRE;EARTH;WATER;AQUAFORTIS;AQUA REGIA;AQUA REGIA-2;AQUA VITAE
  1F709 ALCHEMICAL SYMBOL FOR :AQUA VITAE-2;VINEGAR;VINEGAR-2;VINEGAR-3;SULFUR;PHILOSOPHERS SULFUR;BLACK SULFUR
  1F710 ALCHEMICAL SYMBOL FOR MERCURY :SUBLIMATE;SUBLIMATE-2;SUBLIMATE-3
  1F713 ALCHEMICAL SYMBOL FOR :CINNABAR;SALT;NITRE;VITRIOL;VITRIOL-2;ROCK SALT;ROCK SALT-2;GOLD
  1F71B ALCHEMICAL SYMBOL FOR :SILVER;IRON ORE;IRON ORE-2;CROCUS OF IRON;REGULUS OF IRON;COPPER ORE;IRON-COPPER ORE
  1F722 ALCHEMICAL SYMBOL FOR :SUBLIMATE OF COPPER;CROCUS OF COPPER;CROCUS OF COPPER-2;COPPER ANTIMONIATE
  1F726 ALCHEMICAL SYMBOL FOR :SALT OF COPPER ANTIMONIATE;SUBLIMATE OF SALT OF COPPER;VERDIGRIS;TIN ORE;LEAD ORE
  1F72B ALCHEMICAL SYMBOL FOR :ANTIMONY ORE;SUBLIMATE OF ANTIMONY;SALT OF ANTIMONY;SUBLIMATE OF SALT OF ANTIMONY
  1F72F ALCHEMICAL SYMBOL FOR :VINEGAR OF ANTIMONY;REGULUS OF ANTIMONY;REGULUS OF ANTIMONY-2
  1F732 ALCHEMICAL SYMBOL FOR :REGULUS;REGULUS-2;REGULUS-3;REGULUS-4;ALKALI;ALKALI-2;MARCASITE;SAL-AMMONIAC
  1F73A ALCHEMICAL SYMBOL FOR :ARSENIC;REALGAR;REALGAR-2;AURIPIGMENT;BISMUTH ORE;TARTAR;TARTAR-2;QUICK LIME
  1F742 ALCHEMICAL SYMBOL FOR :BORAX;BORAX-2;BORAX-3;ALUM;OIL;SPIRIT;TINCTURE;GUM;WAX;POWDER;CALX;TUTTY;CAPUT MORTUUM
  1F74F ALCHEMICAL SYMBOL FOR :SCEPTER OF JOVE;CADUCEUS;TRIDENT;STARRED TRIDENT;LODESTONE;SOAP;URINE;HORSE DUNG;ASHES
  1F758 ALCHEMICAL SYMBOL FOR :POT ASHES;BRICK;POWDERED BRICK;AMALGAM;STRATUM SUPER STRATUM;STRATUM SUPER STRATUM-2
  1F75E ALCHEMICAL SYMBOL FOR :SUBLIMATION;PRECIPITATE;DISTILL;DISSOLVE;DISSOLVE-2;PURIFY;PUTREFACTION;CRUCIBLE
  1F766 ALCHEMICAL SYMBOL FOR CRUCIBLE-:2;3;4;5
  1F76A ALCHEMICAL SYMBOL FOR :ALEMBIC;BATH OF MARY;BATH OF VAPOURS;RETORT;HOUR;NIGHT;DAY-NIGHT;MONTH
  1F772 ALCHEMICAL SYMBOL FOR HALF :DRAM;OUNCE
  1F780 BLACK :LEFT-POINTING ISOSCELES RIGHT TRIANGLE;UP-POINTING ISOSCELES RIGHT TRIANGLE
  1F782 BLACK :RIGHT-POINTING ISOSCELES RIGHT TRIANGLE;DOWN-POINTING ISOSCELES RIGHT TRIANGLE;SLIGHTLY SMALL CIRCLE
  1F785 :MEDIUM BOLD WHITE CIRCLE;BOLD WHITE CIRCLE;HEAVY WHITE CIRCLE
  1F788 :VERY HEAVY WHITE CIRCLE;EXTREMELY HEAVY WHITE CIRCLE;WHITE CIRCLE CONTAINING BLACK SMALL CIRCLE
  1F78B :ROUND TARGET;BLACK TINY SQUARE;BLACK SLIGHTLY SMALL SQUARE;LIGHT WHITE SQUARE
  1F78F :MEDIUM WHITE SQUARE;BOLD WHITE SQUARE;HEAVY WHITE SQUARE;VERY HEAVY WHITE SQUARE;EXTREMELY HEAVY WHITE SQUARE
  1F794 WHITE SQUARE CONTAINING BLACK :VERY SMALL SQUARE;MEDIUM SQUARE
  1F796 :SQUARE TARGET
  1F797 BLACK :TINY DIAMOND;VERY SMALL DIAMOND;MEDIUM SMALL DIAMOND
  1F79A WHITE DIAMOND CONTAINING BLACK :VERY SMALL DIAMOND;MEDIUM DIAMOND
  1F79C :DIAMOND TARGET
  1F79D BLACK :TINY LOZENGE;VERY SMALL LOZENGE;MEDIUM SMALL LOZENGE
  1F7A0 :WHITE LOZENGE CONTAINING BLACK SMALL LOZENGE;THIN GREEK CROSS;LIGHT GREEK CROSS
  1F7A3 :MEDIUM GREEK CROSS;BOLD GREEK CROSS;VERY BOLD GREEK CROSS;VERY HEAVY GREEK CROSS;EXTREMELY HEAVY GREEK CROSS
  1F7A8 :THIN SALTIRE;LIGHT SALTIRE;MEDIUM SALTIRE;BOLD SALTIRE;HEAVY SALTIRE;VERY HEAVY SALTIRE
  1F7AE :EXTREMELY HEAVY SALTIRE;LIGHT FIVE SPOKED ASTERISK;MEDIUM FIVE SPOKED ASTERISK;BOLD FIVE SPOKED ASTERISK
  1F7B2 :HEAVY FIVE SPOKED ASTERISK;VERY HEAVY FIVE SPOKED ASTERISK;EXTREMELY HEAVY FIVE SPOKED ASTERISK
  1F7B5 :LIGHT SIX SPOKED ASTERISK;MEDIUM SIX SPOKED ASTERISK;BOLD SIX SPOKED ASTERISK
  1F7B8 :HEAVY SIX SPOKED ASTERISK;VERY HEAVY SIX SPOKED ASTERISK;EXTREMELY HEAVY SIX SPOKED ASTERISK
  1F7BB :LIGHT EIGHT SPOKED ASTERISK;MEDIUM EIGHT SPOKED ASTERISK;BOLD EIGHT SPOKED ASTERISK
  1F7BE :HEAVY EIGHT SPOKED ASTERISK;VERY HEAVY EIGHT SPOKED ASTERISK;LIGHT THREE POINTED BLACK STAR
  1F7C1 :MEDIUM THREE POINTED BLACK STAR;THREE POINTED BLACK STAR;MEDIUM THREE POINTED PINWHEEL STAR
  1F7C4 :LIGHT FOUR POINTED BLACK STAR;MEDIUM FOUR POINTED BLACK STAR;FOUR POINTED BLACK STAR
  1F7C7 :MEDIUM FOUR POINTED PINWHEEL STAR;REVERSE LIGHT FOUR POINTED PINWHEEL STAR;LIGHT FIVE POINTED BLACK STAR
  1F7CA :HEAVY FIVE POINTED BLACK STAR;MEDIUM SIX POINTED BLACK STAR;HEAVY SIX POINTED BLACK STAR
  1F7CD :SIX POINTED PINWHEEL STAR;MEDIUM EIGHT POINTED BLACK STAR;HEAVY EIGHT POINTED BLACK STAR
  1F7D0 :VERY HEAVY EIGHT POINTED BLACK STAR;HEAVY EIGHT POINTED PINWHEEL STAR;LIGHT TWELVE POINTED BLACK STAR
  1F7D3 HEAVY TWELVE POINTED :BLACK STAR;PINWHEEL STAR
  1F7D5 :CIRCLED TRIANGLE;NEGATIVE CIRCLED TRIANGLE;CIRCLED SQUARE;NEGATIVE CIRCLED SQUARE
  1F7E0 LARGE :ORANGE CIRCLE;YELLOW CIRCLE;GREEN CIRCLE;PURPLE CIRCLE
  1F7E4 LARGE :BROWN CIRCLE;RED SQUARE;BLUE SQUARE;ORANGE SQUARE;YELLOW SQUARE;GREEN SQUARE;PURPLE SQUARE;BROWN SQUARE
  1F7F0 :HEAVY EQUALS SIGN
  1F800 :LEFTWARDS ARROW WITH SMALL TRIANGLE ARROWHEAD;UPWARDS ARROW WITH SMALL TRIANGLE ARROWHEAD
  1F802 :RIGHTWARDS ARROW WITH SMALL TRIANGLE ARROWHEAD;DOWNWARDS ARROW WITH SMALL TRIANGLE ARROWHEAD
  1F804 :LEFTWARDS ARROW WITH MEDIUM TRIANGLE ARROWHEAD;UPWARDS ARROW WITH MEDIUM TRIANGLE ARROWHEAD
  1F806 :RIGHTWARDS ARROW WITH MEDIUM TRIANGLE ARROWHEAD;DOWNWARDS ARROW WITH MEDIUM TRIANGLE ARROWHEAD
  1F808 :LEFTWARDS ARROW WITH LARGE TRIANGLE ARROWHEAD;UPWARDS ARROW WITH LARGE TRIANGLE ARROWHEAD
  1F80A :RIGHTWARDS ARROW WITH LARGE TRIANGLE ARROWHEAD;DOWNWARDS ARROW WITH LARGE TRIANGLE ARROWHEAD
  1F810 :LEFTWARDS ARROW WITH SMALL EQUILATERAL ARROWHEAD;UPWARDS ARROW WITH SMALL EQUILATERAL ARROWHEAD
  1F812 :RIGHTWARDS ARROW WITH SMALL EQUILATERAL ARROWHEAD;DOWNWARDS ARROW WITH SMALL EQUILATERAL ARROWHEAD
  1F814 :LEFTWARDS ARROW WITH EQUILATERAL ARROWHEAD;UPWARDS ARROW WITH EQUILATERAL ARROWHEAD
  1F816 :RIGHTWARDS ARROW WITH EQUILATERAL ARROWHEAD;DOWNWARDS ARROW WITH EQUILATERAL ARROWHEAD
  1F818 HEAVY :LEFTWARDS ARROW WITH EQUILATERAL ARROWHEAD;UPWARDS ARROW WITH EQUILATERAL ARROWHEAD
  1F81A HEAVY :RIGHTWARDS ARROW WITH EQUILATERAL ARROWHEAD;DOWNWARDS ARROW WITH EQUILATERAL ARROWHEAD
  1F81C HEAVY :LEFTWARDS ARROW WITH LARGE EQUILATERAL ARROWHEAD;UPWARDS ARROW WITH LARGE EQUILATERAL ARROWHEAD
  1F81E HEAVY :RIGHTWARDS ARROW WITH LARGE EQUILATERAL ARROWHEAD;DOWNWARDS ARROW WITH LARGE EQUILATERAL ARROWHEAD
  1F820 :LEFTWARDS TRIANGLE-HEADED ARROW WITH NARROW SHAFT
  1F821 :UPWARDS TRIANGLE-HEADED ARROW WITH NARROW SHAFT;RIGHTWARDS TRIANGLE-HEADED ARROW WITH NARROW SHAFT
  1F823 :DOWNWARDS TRIANGLE-HEADED ARROW WITH NARROW SHAFT;LEFTWARDS TRIANGLE-HEADED ARROW WITH MEDIUM SHAFT
  1F825 :UPWARDS TRIANGLE-HEADED ARROW WITH MEDIUM SHAFT;RIGHTWARDS TRIANGLE-HEADED ARROW WITH MEDIUM SHAFT
  1F827 :DOWNWARDS TRIANGLE-HEADED ARROW WITH MEDIUM SHAFT;LEFTWARDS TRIANGLE-HEADED ARROW WITH BOLD SHAFT
  1F829 :UPWARDS TRIANGLE-HEADED ARROW WITH BOLD SHAFT;RIGHTWARDS TRIANGLE-HEADED ARROW WITH BOLD SHAFT
  1F82B :DOWNWARDS TRIANGLE-HEADED ARROW WITH BOLD SHAFT;LEFTWARDS TRIANGLE-HEADED ARROW WITH HEAVY SHAFT
  1F82D :UPWARDS TRIANGLE-HEADED ARROW WITH HEAVY SHAFT;RIGHTWARDS TRIANGLE-HEADED ARROW WITH HEAVY SHAFT
  1F82F :DOWNWARDS TRIANGLE-HEADED ARROW WITH HEAVY SHAFT;LEFTWARDS TRIANGLE-HEADED ARROW WITH VERY HEAVY SHAFT
  1F831 :UPWARDS TRIANGLE-HEADED ARROW WITH VERY HEAVY SHAFT;RIGHTWARDS TRIANGLE-HEADED ARROW WITH VERY HEAVY SHAFT
  1F833 :DOWNWARDS TRIANGLE-HEADED ARROW WITH VERY HEAVY SHAFT;LEFTWARDS FINGER-POST ARROW;UPWARDS FINGER-POST ARROW
  1F836 :RIGHTWARDS FINGER-POST ARROW;DOWNWARDS FINGER-POST ARROW;LEFTWARDS SQUARED ARROW;UPWARDS SQUARED ARROW
  1F83A :RIGHTWARDS SQUARED ARROW;DOWNWARDS SQUARED ARROW;LEFTWARDS COMPRESSED ARROW;UPWARDS COMPRESSED ARROW
  1F83E :RIGHTWARDS COMPRESSED ARROW;DOWNWARDS COMPRESSED ARROW;LEFTWARDS HEAVY COMPRESSED ARROW
  1F841 :UPWARDS HEAVY COMPRESSED ARROW;RIGHTWARDS HEAVY COMPRESSED ARROW;DOWNWARDS HEAVY COMPRESSED ARROW
  1F844 :LEFTWARDS HEAVY ARROW;UPWARDS HEAVY ARROW;RIGHTWARDS HEAVY ARROW;DOWNWARDS HEAVY ARROW
  1F850 :LEFTWARDS SANS-SERIF ARROW;UPWARDS SANS-SERIF ARROW;RIGHTWARDS SANS-SERIF ARROW;DOWNWARDS SANS-SERIF ARROW
  1F854 NORTH :WEST SANS-SERIF ARROW;EAST SANS-SERIF ARROW
  1F856 :SOUTH EAST SANS-SERIF ARROW;SOUTH WEST SANS-SERIF ARROW;LEFT RIGHT SANS-SERIF ARROW;UP DOWN SANS-SERIF ARROW
  1F860 WIDE-HEADED :LEFTWARDS LIGHT BARB ARROW;UPWARDS LIGHT BARB ARROW;RIGHTWARDS LIGHT BARB ARROW
  1F863 WIDE-HEADED :DOWNWARDS LIGHT BARB ARROW;NORTH WEST LIGHT BARB ARROW;NORTH EAST LIGHT BARB ARROW
  1F866 WIDE-HEADED :SOUTH EAST LIGHT BARB ARROW;SOUTH WEST LIGHT BARB ARROW;LEFTWARDS BARB ARROW;UPWARDS BARB ARROW
  1F86A WIDE-HEADED :RIGHTWARDS BARB ARROW;DOWNWARDS BARB ARROW;NORTH WEST BARB ARROW;NORTH EAST BARB ARROW
  1F86E WIDE-HEADED :SOUTH EAST BARB ARROW;SOUTH WEST BARB ARROW;LEFTWARDS MEDIUM BARB ARROW;UPWARDS MEDIUM BARB ARROW
  1F872 WIDE-HEADED :RIGHTWARDS MEDIUM BARB ARROW;DOWNWARDS MEDIUM BARB ARROW;NORTH WEST MEDIUM BARB ARROW
  1F875 WIDE-HEADED :NORTH EAST MEDIUM BARB ARROW;SOUTH EAST MEDIUM BARB ARROW;SOUTH WEST MEDIUM BARB ARROW
  1F878 WIDE-HEADED :LEFTWARDS HEAVY BARB ARROW;UPWARDS HEAVY BARB ARROW;RIGHTWARDS HEAVY BARB ARROW
  1F87B WIDE-HEADED :DOWNWARDS HEAVY BARB ARROW;NORTH WEST HEAVY BARB ARROW;NORTH EAST HEAVY BARB ARROW
  1F87E WIDE-HEADED SOUTH :EAST HEAVY BARB ARROW;WEST HEAVY BARB ARROW
  1F880 WIDE-HEADED :LEFTWARDS VERY HEAVY BARB ARROW;UPWARDS VERY HEAVY BARB ARROW;RIGHTWARDS VERY HEAVY BARB ARROW
  1F883 WIDE-HEADED :DOWNWARDS VERY HEAVY BARB ARROW;NORTH WEST VERY HEAVY BARB ARROW;NORTH EAST VERY HEAVY BARB ARROW
  1F886 WIDE-HEADED SOUTH :EAST VERY HEAVY BARB ARROW;WEST VERY HEAVY BARB ARROW
  1F890 :LEFTWARDS TRIANGLE ARROWHEAD;UPWARDS TRIANGLE ARROWHEAD
  1F892 :RIGHTWARDS TRIANGLE ARROWHEAD;DOWNWARDS TRIANGLE ARROWHEAD;LEFTWARDS WHITE ARROW WITHIN TRIANGLE ARROWHEAD
  1F895 :UPWARDS WHITE ARROW WITHIN TRIANGLE ARROWHEAD;RIGHTWARDS WHITE ARROW WITHIN TRIANGLE ARROWHEAD
  1F897 :DOWNWARDS WHITE ARROW WITHIN TRIANGLE ARROWHEAD;LEFTWARDS ARROW WITH NOTCHED TAIL
  1F899 :UPWARDS ARROW WITH NOTCHED TAIL;RIGHTWARDS ARROW WITH NOTCHED TAIL;DOWNWARDS ARROW WITH NOTCHED TAIL
  1F89C HEAVY ARROW SHAFT WIDTH :ONE;TWO THIRDS;ONE HALF;ONE THIRD
  1F8A0 :LEFTWARDS BOTTOM-SHADED WHITE ARROW;RIGHTWARDS BOTTOM SHADED WHITE ARROW
  1F8A2 :LEFTWARDS TOP SHADED WHITE ARROW;RIGHTWARDS TOP SHADED WHITE ARROW;LEFTWARDS LEFT-SHADED WHITE ARROW
  1F8A5 :RIGHTWARDS RIGHT-SHADED WHITE ARROW;LEFTWARDS RIGHT-SHADED WHITE ARROW;RIGHTWARDS LEFT-SHADED WHITE ARROW
  1F8A8 :LEFTWARDS BACK-TILTED SHADOWED WHITE ARROW;RIGHTWARDS BACK-TILTED SHADOWED WHITE ARROW
  1F8AA :LEFTWARDS FRONT-TILTED SHADOWED WHITE ARROW;RIGHTWARDS FRONT-TILTED SHADOWED WHITE ARROW
  1F8AC WHITE ARROW SHAFT WIDTH :ONE;TWO THIRDS
  1F8B0 ARROW POINTING :UPWARDS THEN NORTH WEST;RIGHTWARDS THEN CURVING SOUTH WEST
  1F900 CIRCLED CROSS :FORMEE WITH FOUR DOTS;FORMEE WITH TWO DOTS;FORMEE
  1F903 LEFT HALF CIRCLE WITH :FOUR DOTS;THREE DOTS;TWO DOTS;DOT
  1F907 :LEFT HALF CIRCLE
  1F908 DOWNWARD FACING :HOOK;NOTCHED HOOK;HOOK WITH DOT;NOTCHED HOOK WITH DOT
  1F90C :PINCHED FINGERS
  1F90D :WHITE HEART;BROWN HEART;PINCHING HAND;ZIPPER-MOUTH FACE;MONEY-MOUTH FACE;FACE WITH THERMOMETER
  1F913 :NERD FACE;THINKING FACE;FACE WITH HEAD-BANDAGE;ROBOT FACE;HUGGING FACE;SIGN OF THE HORNS;CALL ME HAND
  1F91A :RAISED BACK OF HAND;LEFT-FACING FIST;RIGHT-FACING FIST;HANDSHAKE;HAND WITH INDEX AND MIDDLE FINGERS CROSSED
  1F91F :I LOVE YOU HAND SIGN;FACE WITH COWBOY HAT;CLOWN FACE;NAUSEATED FACE
  1F923 :ROLLING ON THE FLOOR LAUGHING;DROOLING FACE;LYING FACE;FACE PALM;SNEEZING FACE;FACE WITH ONE EYEBROW RAISED
  1F929 GRINNING FACE WITH :STAR EYES;ONE LARGE AND ONE SMALL EYE
  1F92B :FACE WITH FINGER COVERING CLOSED LIPS
  1F92C :SERIOUS FACE WITH SYMBOLS COVERING MOUTH;SMILING FACE WITH SMILING EYES AND HAND COVERING MOUTH
  1F92E :FACE WITH OPEN MOUTH VOMITING;SHOCKED FACE WITH EXPLODING HEAD;PREGNANT WOMAN
  1F931 :BREAST-FEEDING;PALMS UP TOGETHER;SELFIE;PRINCE;MAN IN TUXEDO;MOTHER CHRISTMAS;SHRUG;PERSON DOING CARTWHEEL
  1F939 :JUGGLING;FENCER;MODERN PENTATHLON;WRESTLERS;WATER POLO;HANDBALL;DIVING MASK;WILTED FLOWER
  1F941 :DRUM WITH DRUMSTICKS;CLINKING GLASSES;TUMBLER GLASS;SPOON;GOAL NET;RIFLE;FIRST PLACE MEDAL;SECOND PLACE MEDAL
  1F949 :THIRD PLACE MEDAL;BOXING GLOVE;MARTIAL ARTS UNIFORM;CURLING STONE;LACROSSE STICK AND BALL;SOFTBALL
  1F94F :FLYING DISC;CROISSANT;AVOCADO;CUCUMBER;BACON;POTATO;CARROT;BAGUETTE BREAD;GREEN SALAD;SHALLOW PAN OF FOOD
  1F959 :STUFFED FLATBREAD;EGG;GLASS OF MILK;PEANUTS;KIWIFRUIT;PANCAKES;DUMPLING;FORTUNE COOKIE;TAKEOUT BOX;CHOPSTICKS
  1F963 :BOWL WITH SPOON;CUP WITH STRAW;COCONUT;BROCCOLI;PIE;PRETZEL;CUT OF MEAT;SANDWICH;CANNED FOOD;LEAFY GREEN
  1F96D :MANGO;MOON CAKE;BAGEL;SMILING FACE WITH SMILING EYES AND THREE HEARTS;YAWNING FACE;SMILING FACE WITH TEAR
  1F973 FACE WITH :PARTY HORN AND PARTY HAT;UNEVEN EYES AND WAVY MOUTH
  1F975 :OVERHEATED FACE;FREEZING FACE;NINJA;DISGUISED FACE;FACE HOLDING BACK TEARS;FACE WITH PLEADING EYES
  1F97B :SARI;LAB COAT;GOGGLES;HIKING BOOT;FLAT SHOE;CRAB;LION FACE;SCORPION;TURKEY;UNICORN FACE;EAGLE
  1F986 :DUCK;BAT;SHARK;OWL;FOX FACE;BUTTERFLY;DEER;GORILLA;LIZARD;RHINOCEROS;SHRIMP;SQUID;GIRAFFE FACE;ZEBRA FACE
  1F994 :HEDGEHOG;SAUROPOD;T-REX;CRICKET;KANGAROO;LLAMA;PEACOCK;HIPPOPOTAMUS;PARROT;RACCOON;LOBSTER;MOSQUITO;MICROBE
  1F9A1 :BADGER;SWAN;MAMMOTH;DODO;SLOTH;OTTER;ORANGUTAN;SKUNK;FLAMINGO;OYSTER;BEAVER;BISON;SEAL;GUIDE DOG;PROBING CANE
  1F9B0 EMOJI COMPONENT :RED HAIR;CURLY HAIR;BALD;WHITE HAIR
  1F9B4 :BONE;LEG;FOOT;TOOTH;SUPERHERO;SUPERVILLAIN;SAFETY VEST
  1F9BB :EAR WITH HEARING AID;MOTORIZED WHEELCHAIR;MANUAL WHEELCHAIR;MECHANICAL ARM;MECHANICAL LEG;CHEESE WEDGE
  1F9C1 :CUPCAKE;SALT SHAKER;BEVERAGE BOX;GARLIC;ONION;FALAFEL;WAFFLE;BUTTER;MATE DRINK;ICE CUBE;BUBBLE TEA
  1F9CC :TROLL;STANDING PERSON;KNEELING PERSON;DEAF PERSON;FACE WITH MONOCLE;ADULT;CHILD;OLDER ADULT;BEARDED PERSON
  1F9D5 PERSON :WITH HEADSCARF;IN STEAMY ROOM;CLIMBING;IN LOTUS POSITION
  1F9D9 :MAGE;FAIRY;VAMPIRE;MERPERSON;ELF;GENIE;ZOMBIE;BRAIN;ORANGE HEART
  1F9E2 :BILLED CAP;SCARF;GLOVES;COAT;SOCKS;RED GIFT ENVELOPE;FIRECRACKER;JIGSAW PUZZLE PIECE;TEST TUBE;PETRI DISH
  1F9EC :DNA DOUBLE HELIX;COMPASS;ABACUS;FIRE EXTINGUISHER;TOOLBOX;BRICK;MAGNET;LUGGAGE;LOTION BOTTLE;SPOOL OF THREAD
  1F9F6 :BALL OF YARN;SAFETY PIN;TEDDY BEAR;BROOM;BASKET;ROLL OF PAPER;BAR OF SOAP;SPONGE;RECEIPT;NAZAR AMULET
  1FA00 NEUTRAL CHESS :KING;QUEEN;ROOK;BISHOP;KNIGHT;PAWN
  1FA06 :WHITE CHESS KNIGHT ROTATED FORTY-FIVE DEGREES
  1FA07 :BLACK CHESS KNIGHT ROTATED FORTY-FIVE DEGREES;NEUTRAL CHESS KNIGHT ROTATED FORTY-FIVE DEGREES
  1FA09 WHITE CHESS :KING ROTATED NINETY DEGREES;QUEEN ROTATED NINETY DEGREES;ROOK ROTATED NINETY DEGREES
  1FA0C WHITE CHESS :BISHOP ROTATED NINETY DEGREES;KNIGHT ROTATED NINETY DEGREES;PAWN ROTATED NINETY DEGREES
  1FA0F BLACK CHESS :KING ROTATED NINETY DEGREES;QUEEN ROTATED NINETY DEGREES;ROOK ROTATED NINETY DEGREES
  1FA12 BLACK CHESS :BISHOP ROTATED NINETY DEGREES;KNIGHT ROTATED NINETY DEGREES;PAWN ROTATED NINETY DEGREES
  1FA15 NEUTRAL CHESS :KING ROTATED NINETY DEGREES;QUEEN ROTATED NINETY DEGREES;ROOK ROTATED NINETY DEGREES
  1FA18 NEUTRAL CHESS :BISHOP ROTATED NINETY DEGREES;KNIGHT ROTATED NINETY DEGREES;PAWN ROTATED NINETY DEGREES
  1FA1B :WHITE CHESS KNIGHT ROTATED ONE HUNDRED THIRTY-FIVE DEGREES
  1FA1C :BLACK CHESS KNIGHT ROTATED ONE HUNDRED THIRTY-FIVE DEGREES
  1FA1D :NEUTRAL CHESS KNIGHT ROTATED ONE HUNDRED THIRTY-FIVE DEGREES
  1FA1E WHITE CHESS TURNED :KING;QUEEN;ROOK;BISHOP;KNIGHT;PAWN
  1FA24 BLACK CHESS TURNED :KING;QUEEN;ROOK;BISHOP;KNIGHT;PAWN
  1FA2A NEUTRAL CHESS TURNED :KING;QUEEN;ROOK;BISHOP;KNIGHT;PAWN
  1FA30 :WHITE CHESS KNIGHT ROTATED TWO HUNDRED TWENTY-FIVE DEGREES
  1FA31 :BLACK CHESS KNIGHT ROTATED TWO HUNDRED TWENTY-FIVE DEGREES
  1FA32 :NEUTRAL CHESS KNIGHT ROTATED TWO HUNDRED TWENTY-FIVE DEGREES
  1FA33 WHITE CHESS :KING ROTATED TWO HUNDRED SEVENTY DEGREES;QUEEN ROTATED TWO HUNDRED SEVENTY DEGREES
  1FA35 WHITE CHESS :ROOK ROTATED TWO HUNDRED SEVENTY DEGREES;BISHOP ROTATED TWO HUNDRED SEVENTY DEGREES
  1FA37 WHITE CHESS :KNIGHT ROTATED TWO HUNDRED SEVENTY DEGREES;PAWN ROTATED TWO HUNDRED SEVENTY DEGREES
  1FA39 BLACK CHESS :KING ROTATED TWO HUNDRED SEVENTY DEGREES;QUEEN ROTATED TWO HUNDRED SEVENTY DEGREES
  1FA3B BLACK CHESS :ROOK ROTATED TWO HUNDRED SEVENTY DEGREES;BISHOP ROTATED TWO HUNDRED SEVENTY DEGREES
  1FA3D BLACK CHESS :KNIGHT ROTATED TWO HUNDRED SEVENTY DEGREES;PAWN ROTATED TWO HUNDRED SEVENTY DEGREES
  1FA3F NEUTRAL CHESS :KING ROTATED TWO HUNDRED SEVENTY DEGREES;QUEEN ROTATED TWO HUNDRED SEVENTY DEGREES
  1FA41 NEUTRAL CHESS :ROOK ROTATED TWO HUNDRED SEVENTY DEGREES;BISHOP ROTATED TWO HUNDRED SEVENTY DEGREES
  1FA43 NEUTRAL CHESS :KNIGHT ROTATED TWO HUNDRED SEVENTY DEGREES;PAWN ROTATED TWO HUNDRED SEVENTY DEGREES
  1FA45 :WHITE CHESS KNIGHT ROTATED THREE HUNDRED FIFTEEN DEGREES
  1FA46 :BLACK CHESS KNIGHT ROTATED THREE HUNDRED FIFTEEN DEGREES
  1FA47 :NEUTRAL CHESS KNIGHT ROTATED THREE HUNDRED FIFTEEN DEGREES;WHITE CHESS EQUIHOPPER
  1FA49 :BLACK CHESS EQUIHOPPER;NEUTRAL CHESS EQUIHOPPER;WHITE CHESS EQUIHOPPER ROTATED NINETY DEGREES
  1FA4C :BLACK CHESS EQUIHOPPER ROTATED NINETY DEGREES;NEUTRAL CHESS EQUIHOPPER ROTATED NINETY DEGREES
  1FA4E WHITE CHESS KNIGHT-:QUEEN;ROOK;BISHOP
  1FA51 BLACK CHESS KNIGHT-:QUEEN;ROOK;BISHOP
  1FA60 XIANGQI RED :GENERAL;MANDARIN;ELEPHANT;HORSE;CHARIOT;CANNON;SOLDIER
  1FA67 XIANGQI BLACK :GENERAL;MANDARIN;ELEPHANT;HORSE;CHARIOT;CANNON;SOLDIER
  1FA70 :BALLET SHOES;ONE-PIECE SWIMSUIT;BRIEFS;SHORTS;THONG SANDAL
  1FA78 :DROP OF BLOOD;ADHESIVE BANDAGE;STETHOSCOPE;X-RAY;CRUTCH
  1FA80 :YO-YO;KITE;PARACHUTE;BOOMERANG;MAGIC WAND;PINATA;NESTING DOLLS
  1FA90 :RINGED PLANET;CHAIR;RAZOR;AXE;DIYA LAMP;BANJO;MILITARY HELMET
  1FA97 :ACCORDION;LONG DRUM;COIN;CARPENTRY SAW;SCREWDRIVER;LADDER;HOOK;MIRROR;WINDOW;PLUNGER;SEWING NEEDLE
  1FAA2 :KNOT;BUCKET;MOUSE TRAP;TOOTHBRUSH;HEADSTONE;PLACARD;ROCK;MIRROR BALL;IDENTIFICATION CARD;LOW BATTERY;HAMSA
  1FAB0 :FLY;WORM;BEETLE;COCKROACH;POTTED PLANT;WOOD;FEATHER;LOTUS;CORAL;EMPTY NEST;NEST WITH EGGS
  1FAC0 :ANATOMICAL HEART;LUNGS;PEOPLE HUGGING;PREGNANT MAN;PREGNANT PERSON;PERSON WITH CROWN
  1FAD0 :BLUEBERRIES;BELL PEPPER;OLIVE;FLATBREAD;TAMALE;FONDUE;TEAPOT;POURING LIQUID;BEANS;JAR
  1FAE0 :MELTING FACE;SALUTING FACE
  1FAE2 FACE WITH :OPEN EYES AND HAND OVER MOUTH;PEEKING EYE;DIAGONAL MOUTH
  1FAE5 :DOTTED LINE FACE;BITING LIP;BUBBLES
  1FAF0 :HAND WITH INDEX FINGER AND THUMB CROSSED
  1FAF1 :RIGHTWARDS HAND;LEFTWARDS HAND;PALM DOWN HAND;PALM UP HAND;INDEX POINTING AT THE VIEWER;HEART HANDS
  1FB00 BLOCK SEXTANT-:1;2;12;3;13;23;123;4;14;24;124;34;134;234;1234;5;15
  1FB11 BLOCK SEXTANT-:25;125;35;235;1235;45;145;245;1245;345;1345;2345;12345;6;16;26;126;36;136;236;1236;46;146;1246
  1FB29 BLOCK SEXTANT-:346;1346;2346;12346;56;156;256;1256;356;1356;2356;12356;456;1456;2456;12456;3456;13456;23456
  1FB3C LOWER LEFT BLOCK DIAGONAL LOWER MIDDLE LEFT TO LOWER :CENTRE;RIGHT
  1FB3E LOWER LEFT BLOCK DIAGONAL UPPER :MIDDLE LEFT TO LOWER CENTRE;MIDDLE LEFT TO LOWER RIGHT;LEFT TO LOWER CENTRE
  1FB41 LOWER RIGHT BLOCK DIAGONAL UPPER MIDDLE LEFT TO UPPER :CENTRE;RIGHT
  1FB43 LOWER RIGHT BLOCK DIAGONAL LOWER :MIDDLE LEFT TO UPPER CENTRE;MIDDLE LEFT TO UPPER RIGHT;LEFT TO UPPER CENTRE
  1FB46 LOWER RIGHT BLOCK DIAGONAL LOWER :MIDDLE LEFT TO UPPER MIDDLE RIGHT;CENTRE TO LOWER MIDDLE RIGHT
  1FB48 LOWER RIGHT BLOCK DIAGONAL LOWER :LEFT TO LOWER MIDDLE RIGHT;CENTRE TO UPPER MIDDLE RIGHT
  1FB4A LOWER RIGHT BLOCK DIAGONAL LOWER :LEFT TO UPPER MIDDLE RIGHT;CENTRE TO UPPER RIGHT
  1FB4C LOWER LEFT BLOCK DIAGONAL UPPER :CENTRE TO UPPER MIDDLE RIGHT;LEFT TO UPPER MIDDLE RIGHT
  1FB4E LOWER LEFT BLOCK DIAGONAL UPPER :CENTRE TO LOWER MIDDLE RIGHT;LEFT TO LOWER MIDDLE RIGHT
  1FB50 LOWER LEFT BLOCK DIAGONAL UPPER :CENTRE TO LOWER RIGHT;MIDDLE LEFT TO LOWER MIDDLE RIGHT
  1FB52 UPPER RIGHT BLOCK DIAGONAL LOWER MIDDLE LEFT TO LOWER :CENTRE;RIGHT
  1FB54 UPPER RIGHT BLOCK DIAGONAL UPPER :MIDDLE LEFT TO LOWER CENTRE;MIDDLE LEFT TO LOWER RIGHT;LEFT TO LOWER CENTRE
  1FB57 UPPER LEFT BLOCK DIAGONAL UPPER MIDDLE LEFT TO UPPER :CENTRE;RIGHT
  1FB59 UPPER LEFT BLOCK DIAGONAL LOWER MIDDLE LEFT TO UPPER :CENTRE;RIGHT
  1FB5B UPPER LEFT BLOCK DIAGONAL LOWER :LEFT TO UPPER CENTRE;MIDDLE LEFT TO UPPER MIDDLE RIGHT
  1FB5D UPPER LEFT BLOCK DIAGONAL LOWER :CENTRE TO LOWER MIDDLE RIGHT;LEFT TO LOWER MIDDLE RIGHT
  1FB5F UPPER LEFT BLOCK DIAGONAL LOWER :CENTRE TO UPPER MIDDLE RIGHT;LEFT TO UPPER MIDDLE RIGHT;CENTRE TO UPPER RIGHT
  1FB62 UPPER RIGHT BLOCK DIAGONAL UPPER :CENTRE TO UPPER MIDDLE RIGHT;LEFT TO UPPER MIDDLE RIGHT
  1FB64 UPPER RIGHT BLOCK DIAGONAL UPPER :CENTRE TO LOWER MIDDLE RIGHT;LEFT TO LOWER MIDDLE RIGHT
  1FB66 UPPER RIGHT BLOCK DIAGONAL UPPER :CENTRE TO LOWER RIGHT;MIDDLE LEFT TO LOWER MIDDLE RIGHT
  1FB68 :UPPER AND RIGHT AND LOWER TRIANGULAR THREE QUARTERS BLOCK
  1FB69 :LEFT AND LOWER AND RIGHT TRIANGULAR THREE QUARTERS BLOCK
  1FB6A :UPPER AND LEFT AND LOWER TRIANGULAR THREE QUARTERS BLOCK
  1FB6B LEFT :AND UPPER AND RIGHT TRIANGULAR THREE QUARTERS BLOCK;TRIANGULAR ONE QUARTER BLOCK
  1FB6D :UPPER TRIANGULAR ONE QUARTER BLOCK;RIGHT TRIANGULAR ONE QUARTER BLOCK;LOWER TRIANGULAR ONE QUARTER BLOCK
  1FB70 VERTICAL ONE EIGHTH BLOCK-:2;3;4;5;6;7
  1FB76 HORIZONTAL ONE EIGHTH BLOCK-:2;3;4;5;6;7
  1FB7C LEFT AND :LOWER ONE EIGHTH BLOCK;UPPER ONE EIGHTH BLOCK
  1FB7E RIGHT AND :UPPER ONE EIGHTH BLOCK;LOWER ONE EIGHTH BLOCK
  1FB80 :UPPER AND LOWER ONE EIGHTH BLOCK;HORIZONTAL ONE EIGHTH BLOCK-1358
  1FB82 UPPER :ONE QUARTER BLOCK;THREE EIGHTHS BLOCK;FIVE EIGHTHS BLOCK;THREE QUARTERS BLOCK;SEVEN EIGHTHS BLOCK
  1FB87 RIGHT :ONE QUARTER BLOCK;THREE EIGHTHS BLOCK;FIVE EIGHTHS BLOCK;THREE QUARTERS BLOCK;SEVEN EIGHTHS BLOCK
  1FB8C :LEFT HALF MEDIUM SHADE
  1FB8D :RIGHT HALF MEDIUM SHADE;UPPER HALF MEDIUM SHADE;LOWER HALF MEDIUM SHADE;INVERSE MEDIUM SHADE
  1FB91 UPPER HALF :BLOCK AND LOWER HALF INVERSE MEDIUM SHADE;INVERSE MEDIUM SHADE AND LOWER HALF BLOCK
  1FB94 :LEFT HALF INVERSE MEDIUM SHADE AND RIGHT HALF BLOCK
  1FB95 :CHECKER BOARD FILL;INVERSE CHECKER BOARD FILL;HEAVY HORIZONTAL FILL
  1FB98 UPPER :LEFT TO LOWER RIGHT FILL;RIGHT TO LOWER LEFT FILL;AND LOWER TRIANGULAR HALF BLOCK
  1FB9B :LEFT AND RIGHT TRIANGULAR HALF BLOCK;UPPER LEFT TRIANGULAR MEDIUM SHADE;UPPER RIGHT TRIANGULAR MEDIUM SHADE
  1FB9E LOWER :RIGHT TRIANGULAR MEDIUM SHADE;LEFT TRIANGULAR MEDIUM SHADE
  1FBA0 BOX DRAWINGS LIGHT DIAGONAL UPPER CENTRE TO MIDDLE :LEFT;RIGHT
  1FBA2 BOX DRAWINGS LIGHT DIAGONAL MIDDLE :LEFT TO LOWER CENTRE;RIGHT TO LOWER CENTRE
  1FBA4 BOX DRAWINGS LIGHT DIAGONAL UPPER CENTRE TO MIDDLE :LEFT TO LOWER CENTRE;RIGHT TO LOWER CENTRE
  1FBA6 BOX DRAWINGS LIGHT DIAGONAL MIDDLE LEFT TO :LOWER CENTRE TO MIDDLE RIGHT;UPPER CENTRE TO MIDDLE RIGHT
  1FBA8 :BOX DRAWINGS LIGHT DIAGONAL UPPER CENTRE TO MIDDLE LEFT AND MIDDLE RIGHT TO LOWER CENTRE
  1FBA9 :BOX DRAWINGS LIGHT DIAGONAL UPPER CENTRE TO MIDDLE RIGHT AND MIDDLE LEFT TO LOWER CENTRE
  1FBAA :BOX DRAWINGS LIGHT DIAGONAL UPPER CENTRE TO MIDDLE RIGHT TO LOWER CENTRE TO MIDDLE LEFT
  1FBAB :BOX DRAWINGS LIGHT DIAGONAL UPPER CENTRE TO MIDDLE LEFT TO LOWER CENTRE TO MIDDLE RIGHT
  1FBAC :BOX DRAWINGS LIGHT DIAGONAL MIDDLE LEFT TO UPPER CENTRE TO MIDDLE RIGHT TO LOWER CENTRE
  1FBAD BOX DRAWINGS LIGHT DIAGONAL :MIDDLE RIGHT TO UPPER CENTRE TO MIDDLE LEFT TO LOWER CENTRE;DIAMOND
  1FBAF :BOX DRAWINGS LIGHT HORIZONTAL WITH VERTICAL STROKE;ARROWHEAD-SHAPED POINTER
  1FBB1 :INVERSE CHECK MARK;LEFT HALF RUNNING MAN;RIGHT HALF RUNNING MAN;INVERSE DOWNWARDS ARROW WITH TIP LEFTWARDS
  1FBB5 :LEFTWARDS ARROW AND UPPER AND LOWER ONE EIGHTH BLOCK;RIGHTWARDS ARROW AND UPPER AND LOWER ONE EIGHTH BLOCK
  1FBB7 :DOWNWARDS ARROW AND RIGHT ONE EIGHTH BLOCK;UPWARDS ARROW AND RIGHT ONE EIGHTH BLOCK
  1FBB9 :LEFT HALF FOLDER;RIGHT HALF FOLDER;VOIDED GREEK CROSS;RIGHT OPEN SQUARED DOT
  1FBBD NEGATIVE DIAGONAL :CROSS;MIDDLE RIGHT TO LOWER CENTRE;DIAMOND
  1FBC0 :WHITE HEAVY SALTIRE WITH ROUNDED CORNERS
  1FBC1 :LEFT THIRD WHITE RIGHT POINTING INDEX;MIDDLE THIRD WHITE RIGHT POINTING INDEX
  1FBC3 :RIGHT THIRD WHITE RIGHT POINTING INDEX;NEGATIVE SQUARED QUESTION MARK;STICK FIGURE
  1FBC6 STICK FIGURE :WITH ARMS RAISED;LEANING LEFT;LEANING RIGHT;WITH DRESS
  1FBCA :WHITE UP-POINTING CHEVRON
  1FBF0 SEGMENTED DIGIT :ZERO;ONE;TWO;THREE;FOUR;FIVE;SIX;SEVEN;EIGHT;NINE
  E0001 :LANGUAGE TAG
  E0020 TAG :SPACE;EXCLAMATION MARK;QUOTATION MARK;NUMBER SIGN;DOLLAR SIGN;PERCENT SIGN;AMPERSAND
  E0027 TAG :APOSTROPHE;LEFT PARENTHESIS;RIGHT PARENTHESIS;ASTERISK;PLUS SIGN;COMMA;HYPHEN-MINUS;FULL STOP;SOLIDUS
  E0030 TAG DIGIT :ZERO;ONE;TWO;THREE;FOUR;FIVE;SIX;SEVEN;EIGHT;NINE
  E003A TAG :COLON;SEMICOLON;LESS-THAN SIGN;EQUALS SIGN;GREATER-THAN SIGN;QUESTION MARK;COMMERCIAL AT
  E0041 TAG LATIN CAPITAL LETTER :A;B;C;D;E;F;G;H;I;J;K;L;M;N;O;P;Q;R;S;T;U;V;W;X;Y;Z
  E005B TAG :LEFT SQUARE BRACKET;REVERSE SOLIDUS;RIGHT SQUARE BRACKET;CIRCUMFLEX ACCENT;LOW LINE;GRAVE ACCENT
  E0061 TAG LATIN SMALL LETTER :A;B;C;D;E;F;G;H;I;J;K;L;M;N;O;P;Q;R;S;T;U;V;W;X;Y;Z
  E007B TAG :LEFT CURLY BRACKET;VERTICAL LINE;RIGHT CURLY BRACKET;TILDE
  E007F :CANCEL TAG
  E0100 VARIATION SELECTOR-:17;18;19;20;21;22;23;24;25;26;27;28;29;30;31;32;33;34;35;36;37;38;39;40;41;42;43
  E011B VARIATION SELECTOR-:44;45;46;47;48;49;50;51;52;53;54;55;56;57;58;59;60;61;62;63;64;65;66;67;68;69;70;71;72;73
  E0139 VARIATION SELECTOR-:74;75;76;77;78;79;80;81;82;83;84;85;86;87;88;89;90;91;92;93;94;95;96;97;98;99;100;101;102
  E0156 VARIATION SELECTOR-:103;104;105;106;107;108;109;110;111;112;113;114;115;116;117;118;119;120;121;122;123;124
  E016C VARIATION SELECTOR-:125;126;127;128;129;130;131;132;133;134;135;136;137;138;139;140;141;142;143;144;145;146
  E0182 VARIATION SELECTOR-:147;148;149;150;151;152;153;154;155;156;157;158;159;160;161;162;163;164;165;166;167;168
  E0198 VARIATION SELECTOR-:169;170;171;172;173;174;175;176;177;178;179;180;181;182;183;184;185;186;187;188;189;190
  E01AE VARIATION SELECTOR-:191;192;193;194;195;196;197;198;199;200;201;202;203;204;205;206;207;208;209;210;211;212
  E01C4 VARIATION SELECTOR-:213;214;215;216;217;218;219;220;221;222;223;224;225;226;227;228;229;230;231;232;233;234
  E01DA VARIATION SELECTOR-:235;236;237;238;239;240;241;242;243;244;245;246;247;248;249;250;251;252;253;254;255;256"

end BraceLink.Text
