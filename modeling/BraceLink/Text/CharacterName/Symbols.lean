/-!
# Names of characters: symbols and East Asian scripts

A line holds the code point of its first character, what the names on it begin with, and after a colon how
the names of the characters go on, in order.
-/

namespace BraceLink.Text

/-- The names of the characters from U+2000 to U+FFFF. -/
def symbolNames : String := "
  2000 :EN QUAD;EM QUAD;EN SPACE;EM SPACE
  2004 :THREE-PER-EM SPACE;FOUR-PER-EM SPACE;SIX-PER-EM SPACE;FIGURE SPACE;PUNCTUATION SPACE;THIN SPACE;HAIR SPACE
  200B ZERO WIDTH :SPACE;NON-JOINER;JOINER
  200E :LEFT-TO-RIGHT MARK;RIGHT-TO-LEFT MARK;HYPHEN;NON-BREAKING HYPHEN;FIGURE DASH;EN DASH;EM DASH
  2015 :HORIZONTAL BAR;DOUBLE VERTICAL LINE;DOUBLE LOW LINE;LEFT SINGLE QUOTATION MARK;RIGHT SINGLE QUOTATION MARK
  201A SINGLE :LOW-9 QUOTATION MARK;HIGH-REVERSED-9 QUOTATION MARK
  201C :LEFT DOUBLE QUOTATION MARK;RIGHT DOUBLE QUOTATION MARK
  201E DOUBLE :LOW-9 QUOTATION MARK;HIGH-REVERSED-9 QUOTATION MARK
  2020 :DAGGER;DOUBLE DAGGER;BULLET;TRIANGULAR BULLET;ONE DOT LEADER;TWO DOT LEADER
  2026 :HORIZONTAL ELLIPSIS;HYPHENATION POINT;LINE SEPARATOR;PARAGRAPH SEPARATOR;LEFT-TO-RIGHT EMBEDDING
  202B :RIGHT-TO-LEFT EMBEDDING;POP DIRECTIONAL FORMATTING;LEFT-TO-RIGHT OVERRIDE;RIGHT-TO-LEFT OVERRIDE
  202F :NARROW NO-BREAK SPACE;PER MILLE SIGN;PER TEN THOUSAND SIGN;PRIME;DOUBLE PRIME;TRIPLE PRIME
  2035 REVERSED :PRIME;DOUBLE PRIME;TRIPLE PRIME
  2038 :CARET;SINGLE LEFT-POINTING ANGLE QUOTATION MARK
  203A :SINGLE RIGHT-POINTING ANGLE QUOTATION MARK;REFERENCE MARK;DOUBLE EXCLAMATION MARK
  203D :INTERROBANG;OVERLINE;UNDERTIE;CHARACTER TIE;CARET INSERTION POINT;ASTERISM;HYPHEN BULLET;FRACTION SLASH
  2045 :LEFT SQUARE BRACKET WITH QUILL;RIGHT SQUARE BRACKET WITH QUILL;DOUBLE QUESTION MARK;QUESTION EXCLAMATION MARK
  2049 :EXCLAMATION QUESTION MARK;TIRONIAN SIGN ET;REVERSED PILCROW SIGN;BLACK LEFTWARDS BULLET
  204D :BLACK RIGHTWARDS BULLET;LOW ASTERISK;REVERSED SEMICOLON;CLOSE UP;TWO ASTERISKS ALIGNED VERTICALLY
  2052 :COMMERCIAL MINUS SIGN;SWUNG DASH;INVERTED UNDERTIE;FLOWER PUNCTUATION MARK;THREE DOT PUNCTUATION
  2057 :QUADRUPLE PRIME;FOUR DOT PUNCTUATION;FIVE DOT PUNCTUATION;TWO DOT PUNCTUATION;FOUR DOT MARK
  205C :DOTTED CROSS;TRICOLON;VERTICAL FOUR DOTS;MEDIUM MATHEMATICAL SPACE;WORD JOINER;FUNCTION APPLICATION
  2062 INVISIBLE :TIMES;SEPARATOR;PLUS
  2066 :LEFT-TO-RIGHT ISOLATE;RIGHT-TO-LEFT ISOLATE
  2068 :FIRST STRONG ISOLATE;POP DIRECTIONAL ISOLATE;INHIBIT SYMMETRIC SWAPPING;ACTIVATE SYMMETRIC SWAPPING
  206C :INHIBIT ARABIC FORM SHAPING;ACTIVATE ARABIC FORM SHAPING;NATIONAL DIGIT SHAPES;NOMINAL DIGIT SHAPES
  2070 SUPERSCRIPT :ZERO;LATIN SMALL LETTER I
  2074 SUPERSCRIPT :FOUR;FIVE;SIX;SEVEN
  2078 SUPERSCRIPT :EIGHT;NINE;PLUS SIGN;MINUS;EQUALS SIGN;LEFT PARENTHESIS;RIGHT PARENTHESIS;LATIN SMALL LETTER N
  2080 SUBSCRIPT :ZERO;ONE;TWO
  2083 SUBSCRIPT :THREE;FOUR;FIVE;SIX;SEVEN;EIGHT;NINE;PLUS SIGN;MINUS;EQUALS SIGN;LEFT PARENTHESIS;RIGHT PARENTHESIS
  2090 LATIN SUBSCRIPT SMALL LETTER :A;E;O;X;SCHWA;H;K;L;M;N;P;S;T
  20A0 :EURO-CURRENCY SIGN;COLON SIGN;CRUZEIRO SIGN;FRENCH FRANC SIGN;LIRA SIGN;MILL SIGN;NAIRA SIGN;PESETA SIGN
  20A8 :RUPEE SIGN;WON SIGN;NEW SHEQEL SIGN;DONG SIGN;EURO SIGN;KIP SIGN;TUGRIK SIGN;DRACHMA SIGN;GERMAN PENNY SIGN
  20B1 :PESO SIGN;GUARANI SIGN;AUSTRAL SIGN;HRYVNIA SIGN;CEDI SIGN;LIVRE TOURNOIS SIGN;SPESMILO SIGN;TENGE SIGN
  20B9 :INDIAN RUPEE SIGN;TURKISH LIRA SIGN;NORDIC MARK SIGN;MANAT SIGN;RUBLE SIGN;LARI SIGN;BITCOIN SIGN;SOM SIGN
  20D0 COMBINING :LEFT HARPOON ABOVE;RIGHT HARPOON ABOVE;LONG VERTICAL LINE OVERLAY;SHORT VERTICAL LINE OVERLAY
  20D4 COMBINING :ANTICLOCKWISE ARROW ABOVE;CLOCKWISE ARROW ABOVE;LEFT ARROW ABOVE;RIGHT ARROW ABOVE
  20D8 COMBINING :RING OVERLAY;CLOCKWISE RING OVERLAY;ANTICLOCKWISE RING OVERLAY;THREE DOTS ABOVE;FOUR DOTS ABOVE
  20DD COMBINING ENCLOSING :CIRCLE;SQUARE;DIAMOND;CIRCLE BACKSLASH
  20E1 :COMBINING LEFT RIGHT ARROW ABOVE
  20E2 COMBINING ENCLOSING :SCREEN;KEYCAP;UPWARD POINTING TRIANGLE
  20E5 :COMBINING REVERSE SOLIDUS OVERLAY
  20E6 COMBINING :DOUBLE VERTICAL STROKE OVERLAY;ANNUITY SYMBOL;TRIPLE UNDERDOT;WIDE BRIDGE ABOVE
  20EA COMBINING :LEFTWARDS ARROW OVERLAY;LONG DOUBLE SOLIDUS OVERLAY;RIGHTWARDS HARPOON WITH BARB DOWNWARDS
  20ED COMBINING :LEFTWARDS HARPOON WITH BARB DOWNWARDS;LEFT ARROW BELOW;RIGHT ARROW BELOW;ASTERISK ABOVE
  2100 :ACCOUNT OF;ADDRESSED TO THE SUBJECT;DOUBLE-STRUCK CAPITAL C;DEGREE CELSIUS;CENTRE LINE SYMBOL;CARE OF
  2106 :CADA UNA;EULER CONSTANT;SCRUPLE;DEGREE FAHRENHEIT;SCRIPT SMALL G;SCRIPT CAPITAL H;BLACK-LETTER CAPITAL H
  210D :DOUBLE-STRUCK CAPITAL H;PLANCK CONSTANT;PLANCK CONSTANT OVER TWO PI;SCRIPT CAPITAL I;BLACK-LETTER CAPITAL I
  2112 SCRIPT :CAPITAL L;SMALL L
  2114 :L B BAR SYMBOL;DOUBLE-STRUCK CAPITAL N;NUMERO SIGN;SOUND RECORDING COPYRIGHT;SCRIPT CAPITAL P
  2119 DOUBLE-STRUCK CAPITAL :P;Q
  211B :SCRIPT CAPITAL R;BLACK-LETTER CAPITAL R;DOUBLE-STRUCK CAPITAL R
  211E :PRESCRIPTION TAKE;RESPONSE;SERVICE MARK;TELEPHONE SIGN;TRADE MARK SIGN;VERSICLE;DOUBLE-STRUCK CAPITAL Z
  2125 :OUNCE SIGN;OHM SIGN;INVERTED OHM SIGN;BLACK-LETTER CAPITAL Z;TURNED GREEK SMALL LETTER IOTA
  212A :KELVIN SIGN;ANGSTROM SIGN;SCRIPT CAPITAL B;BLACK-LETTER CAPITAL C;ESTIMATED SYMBOL;SCRIPT SMALL E
  2130 SCRIPT CAPITAL :E;F
  2132 :TURNED CAPITAL F;SCRIPT CAPITAL M;SCRIPT SMALL O
  2135 :ALEF SYMBOL;BET SYMBOL;GIMEL SYMBOL;DALET SYMBOL;INFORMATION SOURCE;ROTATED CAPITAL Q;FACSIMILE SIGN
  213C DOUBLE-STRUCK :SMALL PI;SMALL GAMMA;CAPITAL GAMMA;CAPITAL PI;N-ARY SUMMATION
  2141 TURNED SANS-SERIF CAPITAL :G;L
  2143 :REVERSED SANS-SERIF CAPITAL L;TURNED SANS-SERIF CAPITAL Y
  2145 DOUBLE-STRUCK ITALIC :CAPITAL D;SMALL D;SMALL E;SMALL I;SMALL J
  214A :PROPERTY LINE;TURNED AMPERSAND;PER SIGN;AKTIESELSKAB;TURNED SMALL F;SYMBOL FOR SAMARITAN SOURCE
  2150 VULGAR FRACTION :ONE SEVENTH;ONE NINTH;ONE TENTH;ONE THIRD;TWO THIRDS;ONE FIFTH;TWO FIFTHS;THREE FIFTHS
  2158 VULGAR FRACTION :FOUR FIFTHS;ONE SIXTH;FIVE SIXTHS;ONE EIGHTH;THREE EIGHTHS;FIVE EIGHTHS;SEVEN EIGHTHS
  215F :FRACTION NUMERATOR ONE
  2160 ROMAN NUMERAL :ONE;TWO;THREE
  2163 ROMAN NUMERAL :FOUR;FIVE;SIX;SEVEN;EIGHT;NINE;TEN;ELEVEN;TWELVE;FIFTY;ONE HUNDRED;FIVE HUNDRED;ONE THOUSAND
  2170 SMALL ROMAN NUMERAL :ONE;TWO;THREE;FOUR
  2174 SMALL ROMAN NUMERAL :FIVE;SIX;SEVEN;EIGHT;NINE;TEN;ELEVEN;TWELVE;FIFTY;ONE HUNDRED;FIVE HUNDRED;ONE THOUSAND
  2180 ROMAN NUMERAL :ONE THOUSAND C D;FIVE THOUSAND;TEN THOUSAND;REVERSED ONE HUNDRED
  2184 :LATIN SMALL LETTER REVERSED C
  2185 ROMAN NUMERAL :SIX LATE FORM;FIFTY EARLY FORM;FIFTY THOUSAND;ONE HUNDRED THOUSAND
  2189 :VULGAR FRACTION ZERO THIRDS
  218A TURNED DIGIT :TWO;THREE
  2190 :LEFTWARDS ARROW;UPWARDS ARROW;RIGHTWARDS ARROW;DOWNWARDS ARROW;LEFT RIGHT ARROW;UP DOWN ARROW;NORTH WEST ARROW
  2197 :NORTH EAST ARROW;SOUTH EAST ARROW;SOUTH WEST ARROW;LEFTWARDS ARROW WITH STROKE;RIGHTWARDS ARROW WITH STROKE
  219C :LEFTWARDS WAVE ARROW;RIGHTWARDS WAVE ARROW;LEFTWARDS TWO HEADED ARROW;UPWARDS TWO HEADED ARROW
  21A0 :RIGHTWARDS TWO HEADED ARROW;DOWNWARDS TWO HEADED ARROW;LEFTWARDS ARROW WITH TAIL;RIGHTWARDS ARROW WITH TAIL
  21A4 :LEFTWARDS ARROW FROM BAR;UPWARDS ARROW FROM BAR;RIGHTWARDS ARROW FROM BAR;DOWNWARDS ARROW FROM BAR
  21A8 :UP DOWN ARROW WITH BASE;LEFTWARDS ARROW WITH HOOK;RIGHTWARDS ARROW WITH HOOK;LEFTWARDS ARROW WITH LOOP
  21AC :RIGHTWARDS ARROW WITH LOOP;LEFT RIGHT WAVE ARROW;LEFT RIGHT ARROW WITH STROKE;DOWNWARDS ZIGZAG ARROW
  21B0 UPWARDS ARROW WITH TIP :LEFTWARDS;RIGHTWARDS
  21B2 DOWNWARDS ARROW WITH TIP :LEFTWARDS;RIGHTWARDS
  21B4 :RIGHTWARDS ARROW WITH CORNER DOWNWARDS
  21B5 :DOWNWARDS ARROW WITH CORNER LEFTWARDS;ANTICLOCKWISE TOP SEMICIRCLE ARROW;CLOCKWISE TOP SEMICIRCLE ARROW
  21B8 :NORTH WEST ARROW TO LONG BAR;LEFTWARDS ARROW TO BAR OVER RIGHTWARDS ARROW TO BAR
  21BA :ANTICLOCKWISE OPEN CIRCLE ARROW;CLOCKWISE OPEN CIRCLE ARROW
  21BC LEFTWARDS HARPOON WITH BARB :UPWARDS;DOWNWARDS
  21BE UPWARDS HARPOON WITH BARB :RIGHTWARDS;LEFTWARDS
  21C0 RIGHTWARDS HARPOON WITH BARB :UPWARDS;DOWNWARDS
  21C2 DOWNWARDS HARPOON WITH BARB :RIGHTWARDS;LEFTWARDS
  21C4 :RIGHTWARDS ARROW OVER LEFTWARDS ARROW;UPWARDS ARROW LEFTWARDS OF DOWNWARDS ARROW
  21C6 LEFTWARDS :ARROW OVER RIGHTWARDS ARROW;PAIRED ARROWS
  21C8 :UPWARDS PAIRED ARROWS;RIGHTWARDS PAIRED ARROWS
  21CA :DOWNWARDS PAIRED ARROWS;LEFTWARDS HARPOON OVER RIGHTWARDS HARPOON;RIGHTWARDS HARPOON OVER LEFTWARDS HARPOON
  21CD :LEFTWARDS DOUBLE ARROW WITH STROKE;LEFT RIGHT DOUBLE ARROW WITH STROKE;RIGHTWARDS DOUBLE ARROW WITH STROKE
  21D0 :LEFTWARDS DOUBLE ARROW;UPWARDS DOUBLE ARROW;RIGHTWARDS DOUBLE ARROW;DOWNWARDS DOUBLE ARROW
  21D4 :LEFT RIGHT DOUBLE ARROW;UP DOWN DOUBLE ARROW;NORTH WEST DOUBLE ARROW;NORTH EAST DOUBLE ARROW
  21D8 SOUTH :EAST DOUBLE ARROW;WEST DOUBLE ARROW
  21DA :LEFTWARDS TRIPLE ARROW;RIGHTWARDS TRIPLE ARROW;LEFTWARDS SQUIGGLE ARROW;RIGHTWARDS SQUIGGLE ARROW
  21DE :UPWARDS ARROW WITH DOUBLE STROKE;DOWNWARDS ARROW WITH DOUBLE STROKE;LEFTWARDS DASHED ARROW
  21E1 :UPWARDS DASHED ARROW;RIGHTWARDS DASHED ARROW;DOWNWARDS DASHED ARROW;LEFTWARDS ARROW TO BAR
  21E5 :RIGHTWARDS ARROW TO BAR;LEFTWARDS WHITE ARROW;UPWARDS WHITE ARROW;RIGHTWARDS WHITE ARROW;DOWNWARDS WHITE ARROW
  21EA UPWARDS WHITE ARROW :FROM BAR;ON PEDESTAL;ON PEDESTAL WITH HORIZONTAL BAR;ON PEDESTAL WITH VERTICAL BAR
  21EE UPWARDS WHITE DOUBLE :ARROW;ARROW ON PEDESTAL
  21F0 :RIGHTWARDS WHITE ARROW FROM WALL;NORTH WEST ARROW TO CORNER;SOUTH EAST ARROW TO CORNER
  21F3 :UP DOWN WHITE ARROW;RIGHT ARROW WITH SMALL CIRCLE;DOWNWARDS ARROW LEFTWARDS OF UPWARDS ARROW
  21F6 :THREE RIGHTWARDS ARROWS;LEFTWARDS ARROW WITH VERTICAL STROKE;RIGHTWARDS ARROW WITH VERTICAL STROKE
  21F9 :LEFT RIGHT ARROW WITH VERTICAL STROKE;LEFTWARDS ARROW WITH DOUBLE VERTICAL STROKE
  21FB :RIGHTWARDS ARROW WITH DOUBLE VERTICAL STROKE;LEFT RIGHT ARROW WITH DOUBLE VERTICAL STROKE
  21FD :LEFTWARDS OPEN-HEADED ARROW;RIGHTWARDS OPEN-HEADED ARROW;LEFT RIGHT OPEN-HEADED ARROW;FOR ALL;COMPLEMENT
  2202 :PARTIAL DIFFERENTIAL;THERE EXISTS;THERE DOES NOT EXIST;EMPTY SET;INCREMENT;NABLA;ELEMENT OF;NOT AN ELEMENT OF
  220A :SMALL ELEMENT OF;CONTAINS AS MEMBER;DOES NOT CONTAIN AS MEMBER;SMALL CONTAINS AS MEMBER;END OF PROOF
  220F N-ARY :PRODUCT;COPRODUCT;SUMMATION
  2212 :MINUS SIGN;MINUS-OR-PLUS SIGN;DOT PLUS;DIVISION SLASH
  2216 :SET MINUS;ASTERISK OPERATOR;RING OPERATOR;BULLET OPERATOR;SQUARE ROOT;CUBE ROOT;FOURTH ROOT;PROPORTIONAL TO
  221E :INFINITY;RIGHT ANGLE;ANGLE;MEASURED ANGLE;SPHERICAL ANGLE;DIVIDES;DOES NOT DIVIDE;PARALLEL TO;NOT PARALLEL TO
  2227 LOGICAL :AND;OR
  2229 :INTERSECTION;UNION;INTEGRAL;DOUBLE INTEGRAL;TRIPLE INTEGRAL;CONTOUR INTEGRAL;SURFACE INTEGRAL;VOLUME INTEGRAL
  2231 CLOCKWISE :INTEGRAL;CONTOUR INTEGRAL
  2233 :ANTICLOCKWISE CONTOUR INTEGRAL;THEREFORE;BECAUSE;RATIO
  2237 :PROPORTION;DOT MINUS;EXCESS;GEOMETRIC PROPORTION;HOMOTHETIC;TILDE OPERATOR;REVERSED TILDE;INVERTED LAZY S
  223F :SINE WAVE;WREATH PRODUCT;NOT TILDE;MINUS TILDE;ASYMPTOTICALLY EQUAL TO;NOT ASYMPTOTICALLY EQUAL TO
  2245 APPROXIMATELY :EQUAL TO;BUT NOT ACTUALLY EQUAL TO
  2247 :NEITHER APPROXIMATELY NOR ACTUALLY EQUAL TO;ALMOST EQUAL TO;NOT ALMOST EQUAL TO
  224A :ALMOST EQUAL OR EQUAL TO;TRIPLE TILDE;ALL EQUAL TO;EQUIVALENT TO;GEOMETRICALLY EQUIVALENT TO
  224F :DIFFERENCE BETWEEN;APPROACHES THE LIMIT;GEOMETRICALLY EQUAL TO;APPROXIMATELY EQUAL TO OR THE IMAGE OF
  2253 :IMAGE OF OR APPROXIMATELY EQUAL TO;COLON EQUALS;EQUALS COLON;RING IN EQUAL TO
  2257 :RING EQUAL TO;CORRESPONDS TO;ESTIMATES;EQUIANGULAR TO;STAR EQUALS;DELTA EQUAL TO;EQUAL TO BY DEFINITION
  225E :MEASURED BY;QUESTIONED EQUAL TO;NOT EQUAL TO;IDENTICAL TO;NOT IDENTICAL TO;STRICTLY EQUIVALENT TO
  2264 :LESS-THAN OR EQUAL TO;GREATER-THAN OR EQUAL TO;LESS-THAN OVER EQUAL TO;GREATER-THAN OVER EQUAL TO
  2268 :LESS-THAN BUT NOT EQUAL TO;GREATER-THAN BUT NOT EQUAL TO;MUCH LESS-THAN;MUCH GREATER-THAN;BETWEEN
  226D NOT :EQUIVALENT TO;LESS-THAN;GREATER-THAN
  2270 NEITHER :LESS-THAN NOR EQUAL TO;GREATER-THAN NOR EQUAL TO
  2272 :LESS-THAN OR EQUIVALENT TO;GREATER-THAN OR EQUIVALENT TO
  2274 NEITHER :LESS-THAN NOR EQUIVALENT TO;GREATER-THAN NOR EQUIVALENT TO
  2276 :LESS-THAN OR GREATER-THAN
  2277 :GREATER-THAN OR LESS-THAN;NEITHER LESS-THAN NOR GREATER-THAN;NEITHER GREATER-THAN NOR LESS-THAN;PRECEDES
  227B :SUCCEEDS;PRECEDES OR EQUAL TO;SUCCEEDS OR EQUAL TO;PRECEDES OR EQUIVALENT TO;SUCCEEDS OR EQUIVALENT TO
  2280 DOES NOT :PRECEDE;SUCCEED
  2282 :SUBSET OF;SUPERSET OF;NOT A SUBSET OF;NOT A SUPERSET OF;SUBSET OF OR EQUAL TO;SUPERSET OF OR EQUAL TO
  2288 NEITHER A :SUBSET OF NOR EQUAL TO;SUPERSET OF NOR EQUAL TO
  228A :SUBSET OF WITH NOT EQUAL TO;SUPERSET OF WITH NOT EQUAL TO;MULTISET
  228D MULTISET :MULTIPLICATION;UNION
  228F SQUARE :IMAGE OF;ORIGINAL OF;IMAGE OF OR EQUAL TO;ORIGINAL OF OR EQUAL TO;CAP;CUP
  2295 CIRCLED :PLUS;MINUS;TIMES;DIVISION SLASH;DOT OPERATOR;RING OPERATOR;ASTERISK OPERATOR;EQUALS;DASH
  229E SQUARED :PLUS;MINUS;TIMES;DOT OPERATOR
  22A2 :RIGHT TACK;LEFT TACK;DOWN TACK;UP TACK
  22A6 :ASSERTION;MODELS;TRUE;FORCES;TRIPLE VERTICAL BAR RIGHT TURNSTILE;DOUBLE VERTICAL BAR DOUBLE RIGHT TURNSTILE
  22AC :DOES NOT PROVE;NOT TRUE;DOES NOT FORCE;NEGATED DOUBLE VERTICAL BAR DOUBLE RIGHT TURNSTILE
  22B0 :PRECEDES UNDER RELATION;SUCCEEDS UNDER RELATION;NORMAL SUBGROUP OF
  22B3 :CONTAINS AS NORMAL SUBGROUP;NORMAL SUBGROUP OF OR EQUAL TO;CONTAINS AS NORMAL SUBGROUP OR EQUAL TO;ORIGINAL OF
  22B7 :IMAGE OF;MULTIMAP;HERMITIAN CONJUGATE MATRIX;INTERCALATE;XOR;NAND;NOR;RIGHT ANGLE WITH ARC;RIGHT TRIANGLE
  22C0 N-ARY :LOGICAL AND;LOGICAL OR;INTERSECTION;UNION
  22C4 :DIAMOND OPERATOR;DOT OPERATOR;STAR OPERATOR;DIVISION TIMES;BOWTIE;LEFT NORMAL FACTOR SEMIDIRECT PRODUCT
  22CA :RIGHT NORMAL FACTOR SEMIDIRECT PRODUCT;LEFT SEMIDIRECT PRODUCT;RIGHT SEMIDIRECT PRODUCT;REVERSED TILDE EQUALS
  22CE CURLY LOGICAL :OR;AND
  22D0 DOUBLE :SUBSET;SUPERSET;INTERSECTION;UNION
  22D4 :PITCHFORK;EQUAL AND PARALLEL TO;LESS-THAN WITH DOT;GREATER-THAN WITH DOT
  22D8 VERY MUCH :LESS-THAN;GREATER-THAN
  22DA :LESS-THAN EQUAL TO OR GREATER-THAN;GREATER-THAN EQUAL TO OR LESS-THAN
  22DC EQUAL TO OR :LESS-THAN;GREATER-THAN;PRECEDES;SUCCEEDS
  22E0 DOES NOT :PRECEDE OR EQUAL;SUCCEED OR EQUAL
  22E2 NOT SQUARE :IMAGE OF OR EQUAL TO;ORIGINAL OF OR EQUAL TO
  22E4 SQUARE :IMAGE OF OR NOT EQUAL TO;ORIGINAL OF OR NOT EQUAL TO
  22E6 :LESS-THAN BUT NOT EQUIVALENT TO;GREATER-THAN BUT NOT EQUIVALENT TO;PRECEDES BUT NOT EQUIVALENT TO
  22E9 :SUCCEEDS BUT NOT EQUIVALENT TO;NOT NORMAL SUBGROUP OF;DOES NOT CONTAIN AS NORMAL SUBGROUP
  22EC :NOT NORMAL SUBGROUP OF OR EQUAL TO;DOES NOT CONTAIN AS NORMAL SUBGROUP OR EQUAL
  22EE :VERTICAL ELLIPSIS;MIDLINE HORIZONTAL ELLIPSIS;UP RIGHT DIAGONAL ELLIPSIS;DOWN RIGHT DIAGONAL ELLIPSIS
  22F2 ELEMENT OF WITH :LONG HORIZONTAL STROKE;VERTICAL BAR AT END OF HORIZONTAL STROKE
  22F4 :SMALL ELEMENT OF WITH VERTICAL BAR AT END OF HORIZONTAL STROKE
  22F5 ELEMENT OF WITH :DOT ABOVE;OVERBAR
  22F7 :SMALL ELEMENT OF WITH OVERBAR
  22F8 ELEMENT OF WITH :UNDERBAR;TWO HORIZONTAL STROKES
  22FA CONTAINS WITH :LONG HORIZONTAL STROKE;VERTICAL BAR AT END OF HORIZONTAL STROKE
  22FC :SMALL CONTAINS WITH VERTICAL BAR AT END OF HORIZONTAL STROKE;CONTAINS WITH OVERBAR;SMALL CONTAINS WITH OVERBAR
  22FF :Z NOTATION BAG MEMBERSHIP;DIAMETER SIGN;ELECTRIC ARROW;HOUSE;UP ARROWHEAD;DOWN ARROWHEAD
  2305 :PROJECTIVE;PERSPECTIVE;WAVY LINE;LEFT CEILING;RIGHT CEILING;LEFT FLOOR;RIGHT FLOOR;BOTTOM RIGHT CROP
  230D :BOTTOM LEFT CROP;TOP RIGHT CROP;TOP LEFT CROP;REVERSED NOT SIGN;SQUARE LOZENGE;ARC;SEGMENT;SECTOR
  2315 :TELEPHONE RECORDER;POSITION INDICATOR;VIEWDATA SQUARE;PLACE OF INTEREST SIGN;TURNED NOT SIGN;WATCH;HOURGLASS
  231C :TOP LEFT CORNER;TOP RIGHT CORNER;BOTTOM LEFT CORNER;BOTTOM RIGHT CORNER;TOP HALF INTEGRAL;BOTTOM HALF INTEGRAL
  2322 :FROWN;SMILE;UP ARROWHEAD BETWEEN TWO HORIZONTAL BARS;OPTION KEY;ERASE TO THE RIGHT;X IN A RECTANGLE BOX
  2328 :KEYBOARD;LEFT-POINTING ANGLE BRACKET;RIGHT-POINTING ANGLE BRACKET;ERASE TO THE LEFT;BENZENE RING;CYLINDRICITY
  232E :ALL AROUND-PROFILE;SYMMETRY;TOTAL RUNOUT;DIMENSION ORIGIN;CONICAL TAPER;SLOPE;COUNTERBORE;COUNTERSINK
  2336 APL FUNCTIONAL SYMBOL :I-BEAM;SQUISH QUAD;QUAD EQUAL;QUAD DIVIDE;QUAD DIAMOND;QUAD JOT
  233C APL FUNCTIONAL SYMBOL :QUAD CIRCLE;CIRCLE STILE;CIRCLE JOT;SLASH BAR;BACKSLASH BAR;QUAD SLASH;QUAD BACKSLASH
  2343 APL FUNCTIONAL SYMBOL :QUAD LESS-THAN;QUAD GREATER-THAN;LEFTWARDS VANE;RIGHTWARDS VANE;QUAD LEFTWARDS ARROW
  2348 APL FUNCTIONAL SYMBOL :QUAD RIGHTWARDS ARROW;CIRCLE BACKSLASH;DOWN TACK UNDERBAR;DELTA STILE
  234C APL FUNCTIONAL SYMBOL :QUAD DOWN CARET;QUAD DELTA;DOWN TACK JOT;UPWARDS VANE;QUAD UPWARDS ARROW;UP TACK OVERBAR
  2352 APL FUNCTIONAL SYMBOL :DEL STILE;QUAD UP CARET;QUAD DEL;UP TACK JOT;DOWNWARDS VANE;QUAD DOWNWARDS ARROW
  2358 APL FUNCTIONAL SYMBOL :QUOTE UNDERBAR;DELTA UNDERBAR;DIAMOND UNDERBAR;JOT UNDERBAR;CIRCLE UNDERBAR
  235D APL FUNCTIONAL SYMBOL :UP SHOE JOT;QUOTE QUAD;CIRCLE STAR;QUAD COLON;UP TACK DIAERESIS;DEL DIAERESIS
  2363 APL FUNCTIONAL SYMBOL :STAR DIAERESIS;JOT DIAERESIS;CIRCLE DIAERESIS;DOWN SHOE STILE;LEFT SHOE STILE
  2368 APL FUNCTIONAL SYMBOL :TILDE DIAERESIS;GREATER-THAN DIAERESIS;COMMA BAR;DEL TILDE;ZILDE;STILE TILDE
  236E APL FUNCTIONAL SYMBOL :SEMICOLON UNDERBAR;QUAD NOT EQUAL;QUAD QUESTION;DOWN CARET TILDE;UP CARET TILDE
  2373 APL FUNCTIONAL SYMBOL :IOTA;RHO;OMEGA;ALPHA UNDERBAR;EPSILON UNDERBAR;IOTA UNDERBAR;OMEGA UNDERBAR;ALPHA
  237B :NOT CHECK MARK
  237C :RIGHT ANGLE WITH DOWNWARDS ZIGZAG ARROW;SHOULDERED OPEN BOX;BELL SYMBOL;VERTICAL LINE WITH MIDDLE DOT
  2380 :INSERTION SYMBOL;CONTINUOUS UNDERLINE SYMBOL;DISCONTINUOUS UNDERLINE SYMBOL;EMPHASIS SYMBOL
  2384 :COMPOSITION SYMBOL;WHITE SQUARE WITH CENTRE VERTICAL LINE;ENTER SYMBOL;ALTERNATIVE KEY SYMBOL;HELM SYMBOL
  2389 CIRCLED :HORIZONTAL BAR WITH NOTCH;TRIANGLE DOWN
  238B :BROKEN CIRCLE WITH NORTHWEST ARROW;UNDO SYMBOL;MONOSTABLE SYMBOL;HYSTERESIS SYMBOL
  238F OPEN-CIRCUIT-OUTPUT :H-TYPE SYMBOL;L-TYPE SYMBOL
  2391 PASSIVE-PULL-:DOWN-OUTPUT SYMBOL;UP-OUTPUT SYMBOL
  2393 :DIRECT CURRENT SYMBOL FORM TWO;SOFTWARE-FUNCTION SYMBOL;APL FUNCTIONAL SYMBOL QUAD
  2396 :DECIMAL SEPARATOR KEY SYMBOL;PREVIOUS PAGE;NEXT PAGE;PRINT SCREEN SYMBOL;CLEAR SCREEN SYMBOL
  239B LEFT PARENTHESIS :UPPER HOOK;EXTENSION;LOWER HOOK
  239E RIGHT PARENTHESIS :UPPER HOOK;EXTENSION;LOWER HOOK
  23A1 LEFT SQUARE BRACKET :UPPER CORNER;EXTENSION;LOWER CORNER
  23A4 RIGHT SQUARE BRACKET :UPPER CORNER;EXTENSION;LOWER CORNER
  23A7 LEFT CURLY BRACKET :UPPER HOOK;MIDDLE PIECE;LOWER HOOK
  23AA :CURLY BRACKET EXTENSION
  23AB RIGHT CURLY BRACKET :UPPER HOOK;MIDDLE PIECE;LOWER HOOK
  23AE :INTEGRAL EXTENSION;HORIZONTAL LINE EXTENSION
  23B0 UPPER :LEFT OR LOWER RIGHT CURLY BRACKET SECTION;RIGHT OR LOWER LEFT CURLY BRACKET SECTION
  23B2 SUMMATION :TOP;BOTTOM
  23B4 :TOP SQUARE BRACKET
  23B5 BOTTOM SQUARE :BRACKET;BRACKET OVER TOP SQUARE BRACKET
  23B7 :RADICAL SYMBOL BOTTOM;LEFT VERTICAL BOX LINE;RIGHT VERTICAL BOX LINE
  23BA HORIZONTAL SCAN LINE-:1;3;7;9
  23BE DENTISTRY SYMBOL LIGHT VERTICAL :AND TOP RIGHT;AND BOTTOM RIGHT;WITH CIRCLE
  23C1 DENTISTRY SYMBOL LIGHT :DOWN AND HORIZONTAL WITH CIRCLE;UP AND HORIZONTAL WITH CIRCLE;VERTICAL WITH TRIANGLE
  23C4 DENTISTRY SYMBOL LIGHT :DOWN AND HORIZONTAL WITH TRIANGLE;UP AND HORIZONTAL WITH TRIANGLE
  23C6 DENTISTRY SYMBOL LIGHT :VERTICAL AND WAVE;DOWN AND HORIZONTAL WITH WAVE;UP AND HORIZONTAL WITH WAVE
  23C9 DENTISTRY SYMBOL LIGHT :DOWN AND HORIZONTAL;UP AND HORIZONTAL;VERTICAL AND TOP LEFT;VERTICAL AND BOTTOM LEFT
  23CD :SQUARE FOOT;RETURN SYMBOL;EJECT SYMBOL;VERTICAL LINE EXTENSION
  23D1 METRICAL :BREVE;LONG OVER SHORT;SHORT OVER LONG
  23D4 METRICAL :LONG OVER TWO SHORTS;TWO SHORTS OVER LONG;TWO SHORTS JOINED;TRISEME;TETRASEME;PENTASEME
  23DA :EARTH GROUND;FUSE;TOP PARENTHESIS;BOTTOM PARENTHESIS;TOP CURLY BRACKET
  23DF :BOTTOM CURLY BRACKET;TOP TORTOISE SHELL BRACKET;BOTTOM TORTOISE SHELL BRACKET;WHITE TRAPEZIUM
  23E3 :BENZENE RING WITH CIRCLE;STRAIGHTNESS;FLATNESS;AC CURRENT;ELECTRICAL INTERSECTION;DECIMAL EXPONENT SYMBOL
  23E9 BLACK :RIGHT-POINTING DOUBLE TRIANGLE;LEFT-POINTING DOUBLE TRIANGLE;UP-POINTING DOUBLE TRIANGLE
  23EC BLACK :DOWN-POINTING DOUBLE TRIANGLE;RIGHT-POINTING DOUBLE TRIANGLE WITH VERTICAL BAR
  23EE BLACK :LEFT-POINTING DOUBLE TRIANGLE WITH VERTICAL BAR;RIGHT-POINTING TRIANGLE WITH DOUBLE VERTICAL BAR
  23F0 :ALARM CLOCK;STOPWATCH;TIMER CLOCK;HOURGLASS WITH FLOWING SAND
  23F4 BLACK MEDIUM :LEFT-POINTING TRIANGLE;RIGHT-POINTING TRIANGLE;UP-POINTING TRIANGLE;DOWN-POINTING TRIANGLE
  23F8 :DOUBLE VERTICAL BAR;BLACK SQUARE FOR STOP;BLACK CIRCLE FOR RECORD
  23FB POWER :SYMBOL;ON-OFF SYMBOL;ON SYMBOL;SLEEP SYMBOL
  23FF :OBSERVER EYE SYMBOL
  2400 SYMBOL FOR :NULL;START OF HEADING;START OF TEXT
  2403 SYMBOL FOR :END OF TEXT;END OF TRANSMISSION;ENQUIRY;ACKNOWLEDGE;BELL;BACKSPACE;HORIZONTAL TABULATION
  240A SYMBOL FOR :LINE FEED;VERTICAL TABULATION;FORM FEED;CARRIAGE RETURN;SHIFT OUT;SHIFT IN;DATA LINK ESCAPE
  2411 SYMBOL FOR DEVICE CONTROL :ONE;TWO;THREE;FOUR
  2415 SYMBOL FOR :NEGATIVE ACKNOWLEDGE;SYNCHRONOUS IDLE;END OF TRANSMISSION BLOCK;CANCEL;END OF MEDIUM
  241A SYMBOL FOR :SUBSTITUTE;ESCAPE;FILE SEPARATOR;GROUP SEPARATOR;RECORD SEPARATOR;UNIT SEPARATOR;SPACE;DELETE
  2422 :BLANK SYMBOL;OPEN BOX
  2424 SYMBOL FOR :NEWLINE;DELETE FORM TWO;SUBSTITUTE FORM TWO
  2440 OCR :HOOK;CHAIR;FORK;INVERTED FORK;BELT BUCKLE
  2445 OCR :BOW TIE;BRANCH BANK IDENTIFICATION;AMOUNT OF CHECK;DASH;CUSTOMER ACCOUNT NUMBER;DOUBLE BACKSLASH
  2460 CIRCLED DIGIT :ONE;TWO;THREE;FOUR;FIVE;SIX;SEVEN;EIGHT;NINE
  2469 CIRCLED NUMBER :TEN;ELEVEN;TWELVE;THIRTEEN;FOURTEEN;FIFTEEN;SIXTEEN;SEVENTEEN;EIGHTEEN;NINETEEN;TWENTY
  2474 PARENTHESIZED DIGIT :ONE;TWO;THREE;FOUR;FIVE;SIX;SEVEN;EIGHT;NINE
  247D PARENTHESIZED NUMBER :TEN;ELEVEN;TWELVE;THIRTEEN;FOURTEEN;FIFTEEN;SIXTEEN;SEVENTEEN;EIGHTEEN;NINETEEN;TWENTY
  2488 DIGIT :ONE FULL STOP;TWO FULL STOP;THREE FULL STOP
  248B DIGIT :FOUR FULL STOP;FIVE FULL STOP;SIX FULL STOP;SEVEN FULL STOP;EIGHT FULL STOP;NINE FULL STOP
  2491 NUMBER :TEN FULL STOP;ELEVEN FULL STOP;TWELVE FULL STOP;THIRTEEN FULL STOP;FOURTEEN FULL STOP;FIFTEEN FULL STOP
  2497 NUMBER :SIXTEEN FULL STOP;SEVENTEEN FULL STOP;EIGHTEEN FULL STOP;NINETEEN FULL STOP;TWENTY FULL STOP
  249C PARENTHESIZED LATIN SMALL LETTER :A;B;C;D;E;F;G;H;I;J;K;L;M;N;O;P;Q;R;S;T;U;V;W;X;Y;Z
  24B6 CIRCLED LATIN CAPITAL LETTER :A;B;C;D;E;F;G;H;I;J;K;L;M;N;O;P;Q;R;S;T;U;V;W;X;Y;Z
  24D0 CIRCLED LATIN SMALL LETTER :A;B;C;D;E;F;G;H;I;J;K;L;M;N;O;P;Q;R;S;T;U;V;W;X;Y;Z
  24EA :CIRCLED DIGIT ZERO
  24EB NEGATIVE CIRCLED NUMBER :ELEVEN;TWELVE;THIRTEEN;FOURTEEN;FIFTEEN;SIXTEEN;SEVENTEEN;EIGHTEEN;NINETEEN;TWENTY
  24F5 DOUBLE CIRCLED DIGIT :ONE;TWO;THREE;FOUR;FIVE;SIX;SEVEN;EIGHT;NINE
  24FE :DOUBLE CIRCLED NUMBER TEN;NEGATIVE CIRCLED DIGIT ZERO
  2500 BOX DRAWINGS :LIGHT HORIZONTAL;HEAVY HORIZONTAL;LIGHT VERTICAL;HEAVY VERTICAL
  2504 BOX DRAWINGS :LIGHT TRIPLE DASH HORIZONTAL;HEAVY TRIPLE DASH HORIZONTAL;LIGHT TRIPLE DASH VERTICAL
  2507 BOX DRAWINGS :HEAVY TRIPLE DASH VERTICAL;LIGHT QUADRUPLE DASH HORIZONTAL;HEAVY QUADRUPLE DASH HORIZONTAL
  250A BOX DRAWINGS :LIGHT QUADRUPLE DASH VERTICAL;HEAVY QUADRUPLE DASH VERTICAL;LIGHT DOWN AND RIGHT
  250D BOX DRAWINGS :DOWN LIGHT AND RIGHT HEAVY;DOWN HEAVY AND RIGHT LIGHT;HEAVY DOWN AND RIGHT;LIGHT DOWN AND LEFT
  2511 BOX DRAWINGS :DOWN LIGHT AND LEFT HEAVY;DOWN HEAVY AND LEFT LIGHT;HEAVY DOWN AND LEFT;LIGHT UP AND RIGHT
  2515 BOX DRAWINGS :UP LIGHT AND RIGHT HEAVY;UP HEAVY AND RIGHT LIGHT;HEAVY UP AND RIGHT;LIGHT UP AND LEFT
  2519 BOX DRAWINGS :UP LIGHT AND LEFT HEAVY;UP HEAVY AND LEFT LIGHT;HEAVY UP AND LEFT;LIGHT VERTICAL AND RIGHT
  251D BOX DRAWINGS :VERTICAL LIGHT AND RIGHT HEAVY;UP HEAVY AND RIGHT DOWN LIGHT;DOWN HEAVY AND RIGHT UP LIGHT
  2520 BOX DRAWINGS :VERTICAL HEAVY AND RIGHT LIGHT;DOWN LIGHT AND RIGHT UP HEAVY;UP LIGHT AND RIGHT DOWN HEAVY
  2523 BOX DRAWINGS :HEAVY VERTICAL AND RIGHT;LIGHT VERTICAL AND LEFT;VERTICAL LIGHT AND LEFT HEAVY
  2526 BOX DRAWINGS :UP HEAVY AND LEFT DOWN LIGHT;DOWN HEAVY AND LEFT UP LIGHT;VERTICAL HEAVY AND LEFT LIGHT
  2529 BOX DRAWINGS :DOWN LIGHT AND LEFT UP HEAVY;UP LIGHT AND LEFT DOWN HEAVY;HEAVY VERTICAL AND LEFT
  252C BOX DRAWINGS :LIGHT DOWN AND HORIZONTAL;LEFT HEAVY AND RIGHT DOWN LIGHT;RIGHT HEAVY AND LEFT DOWN LIGHT
  252F BOX DRAWINGS :DOWN LIGHT AND HORIZONTAL HEAVY;DOWN HEAVY AND HORIZONTAL LIGHT;RIGHT LIGHT AND LEFT DOWN HEAVY
  2532 BOX DRAWINGS :LEFT LIGHT AND RIGHT DOWN HEAVY;HEAVY DOWN AND HORIZONTAL;LIGHT UP AND HORIZONTAL
  2535 BOX DRAWINGS :LEFT HEAVY AND RIGHT UP LIGHT;RIGHT HEAVY AND LEFT UP LIGHT;UP LIGHT AND HORIZONTAL HEAVY
  2538 BOX DRAWINGS :UP HEAVY AND HORIZONTAL LIGHT;RIGHT LIGHT AND LEFT UP HEAVY;LEFT LIGHT AND RIGHT UP HEAVY
  253B BOX DRAWINGS :HEAVY UP AND HORIZONTAL;LIGHT VERTICAL AND HORIZONTAL;LEFT HEAVY AND RIGHT VERTICAL LIGHT
  253E BOX DRAWINGS :RIGHT HEAVY AND LEFT VERTICAL LIGHT;VERTICAL LIGHT AND HORIZONTAL HEAVY
  2540 BOX DRAWINGS :UP HEAVY AND DOWN HORIZONTAL LIGHT;DOWN HEAVY AND UP HORIZONTAL LIGHT
  2542 BOX DRAWINGS :VERTICAL HEAVY AND HORIZONTAL LIGHT;LEFT UP HEAVY AND RIGHT DOWN LIGHT
  2544 BOX DRAWINGS :RIGHT UP HEAVY AND LEFT DOWN LIGHT;LEFT DOWN HEAVY AND RIGHT UP LIGHT
  2546 BOX DRAWINGS :RIGHT DOWN HEAVY AND LEFT UP LIGHT;DOWN LIGHT AND UP HORIZONTAL HEAVY
  2548 BOX DRAWINGS :UP LIGHT AND DOWN HORIZONTAL HEAVY;RIGHT LIGHT AND LEFT VERTICAL HEAVY
  254A BOX DRAWINGS :LEFT LIGHT AND RIGHT VERTICAL HEAVY;HEAVY VERTICAL AND HORIZONTAL;LIGHT DOUBLE DASH HORIZONTAL
  254D BOX DRAWINGS :HEAVY DOUBLE DASH HORIZONTAL;LIGHT DOUBLE DASH VERTICAL;HEAVY DOUBLE DASH VERTICAL
  2550 BOX DRAWINGS :DOUBLE HORIZONTAL;DOUBLE VERTICAL;DOWN SINGLE AND RIGHT DOUBLE;DOWN DOUBLE AND RIGHT SINGLE
  2554 BOX DRAWINGS :DOUBLE DOWN AND RIGHT;DOWN SINGLE AND LEFT DOUBLE;DOWN DOUBLE AND LEFT SINGLE
  2557 BOX DRAWINGS :DOUBLE DOWN AND LEFT;UP SINGLE AND RIGHT DOUBLE;UP DOUBLE AND RIGHT SINGLE
  255A BOX DRAWINGS :DOUBLE UP AND RIGHT;UP SINGLE AND LEFT DOUBLE;UP DOUBLE AND LEFT SINGLE;DOUBLE UP AND LEFT
  255E BOX DRAWINGS VERTICAL :SINGLE AND RIGHT DOUBLE;DOUBLE AND RIGHT SINGLE
  2560 BOX DRAWINGS :DOUBLE VERTICAL AND RIGHT;VERTICAL SINGLE AND LEFT DOUBLE
  2562 BOX DRAWINGS :VERTICAL DOUBLE AND LEFT SINGLE;DOUBLE VERTICAL AND LEFT;DOWN SINGLE AND HORIZONTAL DOUBLE
  2565 BOX DRAWINGS :DOWN DOUBLE AND HORIZONTAL SINGLE;DOUBLE DOWN AND HORIZONTAL;UP SINGLE AND HORIZONTAL DOUBLE
  2568 BOX DRAWINGS :UP DOUBLE AND HORIZONTAL SINGLE;DOUBLE UP AND HORIZONTAL;VERTICAL SINGLE AND HORIZONTAL DOUBLE
  256B BOX DRAWINGS :VERTICAL DOUBLE AND HORIZONTAL SINGLE;DOUBLE VERTICAL AND HORIZONTAL
  256D BOX DRAWINGS LIGHT ARC :DOWN AND RIGHT;DOWN AND LEFT;UP AND LEFT;UP AND RIGHT
  2571 BOX DRAWINGS LIGHT DIAGONAL :UPPER RIGHT TO LOWER LEFT;UPPER LEFT TO LOWER RIGHT;CROSS
  2574 BOX DRAWINGS LIGHT :LEFT;UP;RIGHT;DOWN
  2578 BOX DRAWINGS HEAVY :LEFT;UP;RIGHT;DOWN
  257C BOX DRAWINGS LIGHT :LEFT AND HEAVY RIGHT;UP AND HEAVY DOWN
  257E BOX DRAWINGS HEAVY :LEFT AND LIGHT RIGHT;UP AND LIGHT DOWN
  2580 :UPPER HALF BLOCK
  2581 LOWER ONE :EIGHTH BLOCK;QUARTER BLOCK
  2583 LOWER :THREE EIGHTHS BLOCK;HALF BLOCK;FIVE EIGHTHS BLOCK;THREE QUARTERS BLOCK;SEVEN EIGHTHS BLOCK
  2588 :FULL BLOCK;LEFT SEVEN EIGHTHS BLOCK
  258A LEFT :THREE QUARTERS BLOCK;FIVE EIGHTHS BLOCK;HALF BLOCK;THREE EIGHTHS BLOCK;ONE QUARTER BLOCK;ONE EIGHTH BLOCK
  2590 :RIGHT HALF BLOCK;LIGHT SHADE;MEDIUM SHADE;DARK SHADE;UPPER ONE EIGHTH BLOCK;RIGHT ONE EIGHTH BLOCK
  2596 QUADRANT :LOWER LEFT;LOWER RIGHT;UPPER LEFT
  2599 QUADRANT UPPER LEFT AND LOWER :LEFT AND LOWER RIGHT;RIGHT
  259B QUADRANT UPPER LEFT AND UPPER RIGHT AND LOWER :LEFT;RIGHT
  259D QUADRANT UPPER :RIGHT;RIGHT AND LOWER LEFT;RIGHT AND LOWER LEFT AND LOWER RIGHT
  25A0 :BLACK SQUARE;WHITE SQUARE
  25A2 WHITE SQUARE :WITH ROUNDED CORNERS;CONTAINING BLACK SMALL SQUARE
  25A4 SQUARE WITH :HORIZONTAL FILL;VERTICAL FILL;ORTHOGONAL CROSSHATCH FILL
  25A7 SQUARE WITH :UPPER LEFT TO LOWER RIGHT FILL;UPPER RIGHT TO LOWER LEFT FILL;DIAGONAL CROSSHATCH FILL
  25AA :BLACK SMALL SQUARE;WHITE SMALL SQUARE;BLACK RECTANGLE;WHITE RECTANGLE;BLACK VERTICAL RECTANGLE
  25AF :WHITE VERTICAL RECTANGLE;BLACK PARALLELOGRAM;WHITE PARALLELOGRAM;BLACK UP-POINTING TRIANGLE
  25B3 :WHITE UP-POINTING TRIANGLE;BLACK UP-POINTING SMALL TRIANGLE;WHITE UP-POINTING SMALL TRIANGLE
  25B6 :BLACK RIGHT-POINTING TRIANGLE;WHITE RIGHT-POINTING TRIANGLE;BLACK RIGHT-POINTING SMALL TRIANGLE
  25B9 :WHITE RIGHT-POINTING SMALL TRIANGLE;BLACK RIGHT-POINTING POINTER;WHITE RIGHT-POINTING POINTER
  25BC :BLACK DOWN-POINTING TRIANGLE;WHITE DOWN-POINTING TRIANGLE;BLACK DOWN-POINTING SMALL TRIANGLE
  25BF :WHITE DOWN-POINTING SMALL TRIANGLE;BLACK LEFT-POINTING TRIANGLE;WHITE LEFT-POINTING TRIANGLE
  25C2 :BLACK LEFT-POINTING SMALL TRIANGLE;WHITE LEFT-POINTING SMALL TRIANGLE;BLACK LEFT-POINTING POINTER
  25C5 :WHITE LEFT-POINTING POINTER;BLACK DIAMOND;WHITE DIAMOND;WHITE DIAMOND CONTAINING BLACK SMALL DIAMOND
  25C9 :FISHEYE;LOZENGE;WHITE CIRCLE;DOTTED CIRCLE;CIRCLE WITH VERTICAL FILL;BULLSEYE;BLACK CIRCLE
  25D0 CIRCLE WITH :LEFT HALF BLACK;RIGHT HALF BLACK;LOWER HALF BLACK;UPPER HALF BLACK;UPPER RIGHT QUADRANT BLACK
  25D5 :CIRCLE WITH ALL BUT UPPER LEFT QUADRANT BLACK;LEFT HALF BLACK CIRCLE;RIGHT HALF BLACK CIRCLE
  25D8 INVERSE :BULLET;WHITE CIRCLE
  25DA :UPPER HALF INVERSE WHITE CIRCLE;LOWER HALF INVERSE WHITE CIRCLE
  25DC UPPER :LEFT QUADRANT CIRCULAR ARC;RIGHT QUADRANT CIRCULAR ARC
  25DE :LOWER RIGHT QUADRANT CIRCULAR ARC;LOWER LEFT QUADRANT CIRCULAR ARC;UPPER HALF CIRCLE;LOWER HALF CIRCLE
  25E2 BLACK :LOWER RIGHT TRIANGLE;LOWER LEFT TRIANGLE;UPPER LEFT TRIANGLE;UPPER RIGHT TRIANGLE
  25E6 :WHITE BULLET
  25E7 SQUARE WITH :LEFT HALF BLACK;RIGHT HALF BLACK;UPPER LEFT DIAGONAL HALF BLACK;LOWER RIGHT DIAGONAL HALF BLACK
  25EB WHITE :SQUARE WITH VERTICAL BISECTING LINE;UP-POINTING TRIANGLE WITH DOT
  25ED UP-POINTING TRIANGLE WITH :LEFT HALF BLACK;RIGHT HALF BLACK
  25EF :LARGE CIRCLE
  25F0 WHITE SQUARE WITH :UPPER LEFT QUADRANT;LOWER LEFT QUADRANT;LOWER RIGHT QUADRANT;UPPER RIGHT QUADRANT
  25F4 WHITE CIRCLE WITH :UPPER LEFT QUADRANT;LOWER LEFT QUADRANT;LOWER RIGHT QUADRANT;UPPER RIGHT QUADRANT
  25F8 :UPPER LEFT TRIANGLE;UPPER RIGHT TRIANGLE;LOWER LEFT TRIANGLE;WHITE MEDIUM SQUARE
  25FC :BLACK MEDIUM SQUARE;WHITE MEDIUM SMALL SQUARE;BLACK MEDIUM SMALL SQUARE;LOWER RIGHT TRIANGLE
  2600 :BLACK SUN WITH RAYS;CLOUD;UMBRELLA;SNOWMAN;COMET;BLACK STAR;WHITE STAR;LIGHTNING;THUNDERSTORM
  2609 :SUN;ASCENDING NODE;DESCENDING NODE;CONJUNCTION;OPPOSITION;BLACK TELEPHONE;WHITE TELEPHONE;BALLOT BOX
  2611 BALLOT BOX WITH :CHECK;X
  2613 :SALTIRE;UMBRELLA WITH RAIN DROPS;HOT BEVERAGE;WHITE SHOGI PIECE;BLACK SHOGI PIECE
  2618 :SHAMROCK;REVERSED ROTATED FLORAL HEART BULLET;BLACK LEFT POINTING INDEX;BLACK RIGHT POINTING INDEX
  261C WHITE :LEFT POINTING INDEX;UP POINTING INDEX;RIGHT POINTING INDEX;DOWN POINTING INDEX
  2620 :SKULL AND CROSSBONES;CAUTION SIGN;RADIOACTIVE SIGN;BIOHAZARD SIGN;CADUCEUS;ANKH;ORTHODOX CROSS;CHI RHO
  2628 CROSS OF :LORRAINE;JERUSALEM
  262A :STAR AND CRESCENT;FARSI SYMBOL;ADI SHAKTI;HAMMER AND SICKLE;PEACE SYMBOL;YIN YANG
  2630 TRIGRAM FOR :HEAVEN;LAKE;FIRE;THUNDER;WIND;WATER;MOUNTAIN;EARTH
  2638 :WHEEL OF DHARMA;WHITE FROWNING FACE;WHITE SMILING FACE;BLACK SMILING FACE
  263C :WHITE SUN WITH RAYS;FIRST QUARTER MOON;LAST QUARTER MOON;MERCURY;FEMALE SIGN;EARTH;MALE SIGN;JUPITER;SATURN
  2645 :URANUS;NEPTUNE;PLUTO;ARIES;TAURUS;GEMINI;CANCER;LEO;VIRGO;LIBRA;SCORPIUS;SAGITTARIUS;CAPRICORN;AQUARIUS;PISCES
  2654 WHITE CHESS :KING;QUEEN;ROOK;BISHOP;KNIGHT;PAWN
  265A BLACK CHESS :KING;QUEEN;ROOK;BISHOP;KNIGHT;PAWN
  2660 :BLACK SPADE SUIT;WHITE HEART SUIT;WHITE DIAMOND SUIT;BLACK CLUB SUIT
  2664 :WHITE SPADE SUIT;BLACK HEART SUIT;BLACK DIAMOND SUIT;WHITE CLUB SUIT;HOT SPRINGS;QUARTER NOTE;EIGHTH NOTE
  266B BEAMED :EIGHTH NOTES;SIXTEENTH NOTES
  266D MUSIC :FLAT SIGN;NATURAL SIGN;SHARP SIGN
  2670 :WEST SYRIAC CROSS;EAST SYRIAC CROSS;UNIVERSAL RECYCLING SYMBOL
  2673 RECYCLING SYMBOL FOR TYPE-:1 PLASTICS;2 PLASTICS;3 PLASTICS;4 PLASTICS;5 PLASTICS;6 PLASTICS;7 PLASTICS
  267A :RECYCLING SYMBOL FOR GENERIC MATERIALS;BLACK UNIVERSAL RECYCLING SYMBOL
  267C :RECYCLED PAPER SYMBOL;PARTIALLY-RECYCLED PAPER SYMBOL;PERMANENT PAPER SIGN;WHEELCHAIR SYMBOL
  2680 DIE FACE-:1;2;3;4;5;6
  2686 WHITE CIRCLE WITH :DOT RIGHT;TWO DOTS
  2688 BLACK CIRCLE WITH :WHITE DOT RIGHT;TWO WHITE DOTS
  268A MONOGRAM FOR :YANG;YIN
  268C DIGRAM FOR :GREATER YANG;LESSER YIN;LESSER YANG;GREATER YIN
  2690 :WHITE FLAG;BLACK FLAG;HAMMER AND PICK;ANCHOR;CROSSED SWORDS
  2695 :STAFF OF AESCULAPIUS;SCALES;ALEMBIC;FLOWER;GEAR;STAFF OF HERMES;ATOM SYMBOL;FLEUR-DE-LIS;OUTLINED WHITE STAR
  269E THREE LINES CONVERGING :RIGHT;LEFT
  26A0 :WARNING SIGN;HIGH VOLTAGE SIGN;DOUBLED FEMALE SIGN;DOUBLED MALE SIGN;INTERLOCKED FEMALE AND MALE SIGN
  26A5 MALE :AND FEMALE SIGN;WITH STROKE SIGN;WITH STROKE AND MALE AND FEMALE SIGN
  26A8 :VERTICAL MALE WITH STROKE SIGN;HORIZONTAL MALE WITH STROKE SIGN
  26AA MEDIUM :WHITE CIRCLE;BLACK CIRCLE;SMALL WHITE CIRCLE
  26AD :MARRIAGE SYMBOL;DIVORCE SYMBOL;UNMARRIED PARTNERSHIP SYMBOL;COFFIN;FUNERAL URN;NEUTER;CERES;PALLAS;JUNO
  26B6 :VESTA;CHIRON;BLACK MOON LILITH;SEXTILE;SEMISEXTILE;QUINCUNX;SESQUIQUADRATE;SOCCER BALL;BASEBALL;SQUARED KEY
  26C0 WHITE DRAUGHTS :MAN;KING
  26C2 BLACK DRAUGHTS :MAN;KING
  26C4 :SNOWMAN WITHOUT SNOW;SUN BEHIND CLOUD;RAIN
  26C7 :BLACK SNOWMAN;THUNDER CLOUD AND RAIN;TURNED WHITE SHOGI PIECE;TURNED BLACK SHOGI PIECE;WHITE DIAMOND IN SQUARE
  26CC :CROSSING LANES;DISABLED CAR;OPHIUCHUS;PICK;CAR SLIDING;HELMET WITH WHITE CROSS;CIRCLED CROSSING LANES;CHAINS
  26D4 :NO ENTRY;ALTERNATE ONE-WAY LEFT WAY TRAFFIC;BLACK TWO-WAY LEFT WAY TRAFFIC;WHITE TWO-WAY LEFT WAY TRAFFIC
  26D8 :BLACK LEFT LANE MERGE;WHITE LEFT LANE MERGE;DRIVE SLOW SIGN;HEAVY WHITE DOWN-POINTING TRIANGLE
  26DC :LEFT CLOSED ENTRY;SQUARED SALTIRE;FALLING DIAGONAL IN WHITE CIRCLE IN BLACK SQUARE;BLACK TRUCK
  26E0 RESTRICTED LEFT ENTRY-:1;2
  26E2 :ASTRONOMICAL SYMBOL FOR URANUS;HEAVY CIRCLE WITH STROKE AND TWO DOTS ABOVE;PENTAGRAM
  26E5 :RIGHT-HANDED INTERLACED PENTAGRAM;LEFT-HANDED INTERLACED PENTAGRAM;INVERTED PENTAGRAM;BLACK CROSS ON SHIELD
  26E9 :SHINTO SHRINE;CHURCH;CASTLE;HISTORIC SITE;GEAR WITHOUT HUB;GEAR WITH HANDLES;MAP SYMBOL FOR LIGHTHOUSE
  26F0 :MOUNTAIN;UMBRELLA ON GROUND;FOUNTAIN;FLAG IN HOLE;FERRY;SAILBOAT;SQUARE FOUR CORNERS;SKIER
  26F8 :ICE SKATE;PERSON WITH BALL;TENT;JAPANESE BANK SYMBOL;HEADSTONE GRAVEYARD SYMBOL;FUEL PUMP;CUP ON BLACK SQUARE
  26FF :WHITE FLAG WITH HORIZONTAL MIDDLE BLACK STRIPE;BLACK SAFETY SCISSORS;UPPER BLADE SCISSORS;BLACK SCISSORS
  2703 :LOWER BLADE SCISSORS;WHITE SCISSORS;WHITE HEAVY CHECK MARK;TELEPHONE LOCATION SIGN;TAPE DRIVE;AIRPLANE
  2709 :ENVELOPE;RAISED FIST;RAISED HAND;VICTORY HAND;WRITING HAND;LOWER RIGHT PENCIL;PENCIL;UPPER RIGHT PENCIL
  2711 :WHITE NIB;BLACK NIB;CHECK MARK;HEAVY CHECK MARK;MULTIPLICATION X;HEAVY MULTIPLICATION X;BALLOT X
  2718 :HEAVY BALLOT X;OUTLINED GREEK CROSS;HEAVY GREEK CROSS;OPEN CENTRE CROSS;HEAVY OPEN CENTRE CROSS;LATIN CROSS
  271E :SHADOWED WHITE LATIN CROSS;OUTLINED LATIN CROSS;MALTESE CROSS;STAR OF DAVID;FOUR TEARDROP-SPOKED ASTERISK
  2723 :FOUR BALLOON-SPOKED ASTERISK;HEAVY FOUR BALLOON-SPOKED ASTERISK;FOUR CLUB-SPOKED ASTERISK
  2726 :BLACK FOUR POINTED STAR;WHITE FOUR POINTED STAR;SPARKLES;STRESS OUTLINED WHITE STAR;CIRCLED WHITE STAR
  272B :OPEN CENTRE BLACK STAR;BLACK CENTRE WHITE STAR;OUTLINED BLACK STAR;HEAVY OUTLINED BLACK STAR
  272F :PINWHEEL STAR;SHADOWED WHITE STAR;HEAVY ASTERISK;OPEN CENTRE ASTERISK;EIGHT SPOKED ASTERISK
  2734 EIGHT POINTED :BLACK STAR;PINWHEEL STAR
  2736 :SIX POINTED BLACK STAR;EIGHT POINTED RECTILINEAR BLACK STAR;HEAVY EIGHT POINTED RECTILINEAR BLACK STAR
  2739 :TWELVE POINTED BLACK STAR;SIXTEEN POINTED ASTERISK;TEARDROP-SPOKED ASTERISK
  273C :OPEN CENTRE TEARDROP-SPOKED ASTERISK;HEAVY TEARDROP-SPOKED ASTERISK;SIX PETALLED BLACK AND WHITE FLORETTE
  273F :BLACK FLORETTE;WHITE FLORETTE;EIGHT PETALLED OUTLINED BLACK FLORETTE;CIRCLED OPEN CENTRE EIGHT POINTED STAR
  2743 :HEAVY TEARDROP-SPOKED PINWHEEL ASTERISK;SNOWFLAKE;TIGHT TRIFOLIATE SNOWFLAKE
  2746 :HEAVY CHEVRON SNOWFLAKE;SPARKLE;HEAVY SPARKLE;BALLOON-SPOKED ASTERISK;EIGHT TEARDROP-SPOKED PROPELLER ASTERISK
  274B :HEAVY EIGHT TEARDROP-SPOKED PROPELLER ASTERISK;CROSS MARK;SHADOWED WHITE CIRCLE
  274E :NEGATIVE SQUARED CROSS MARK;LOWER RIGHT DROP-SHADOWED WHITE SQUARE;UPPER RIGHT DROP-SHADOWED WHITE SQUARE
  2751 :LOWER RIGHT SHADOWED WHITE SQUARE;UPPER RIGHT SHADOWED WHITE SQUARE;BLACK QUESTION MARK ORNAMENT
  2754 WHITE :QUESTION MARK ORNAMENT;EXCLAMATION MARK ORNAMENT
  2756 :BLACK DIAMOND MINUS WHITE X;HEAVY EXCLAMATION MARK SYMBOL;LIGHT VERTICAL BAR;MEDIUM VERTICAL BAR
  275A HEAVY :VERTICAL BAR;SINGLE TURNED COMMA QUOTATION MARK ORNAMENT;SINGLE COMMA QUOTATION MARK ORNAMENT
  275D HEAVY DOUBLE :TURNED COMMA QUOTATION MARK ORNAMENT;COMMA QUOTATION MARK ORNAMENT
  275F HEAVY LOW :SINGLE COMMA QUOTATION MARK ORNAMENT;DOUBLE COMMA QUOTATION MARK ORNAMENT
  2761 :CURVED STEM PARAGRAPH SIGN ORNAMENT
  2762 HEAVY :EXCLAMATION MARK ORNAMENT;HEART EXCLAMATION MARK ORNAMENT;BLACK HEART
  2765 :ROTATED HEAVY BLACK HEART BULLET;FLORAL HEART;ROTATED FLORAL HEART BULLET
  2768 MEDIUM :LEFT PARENTHESIS ORNAMENT;RIGHT PARENTHESIS ORNAMENT
  276A MEDIUM FLATTENED :LEFT PARENTHESIS ORNAMENT;RIGHT PARENTHESIS ORNAMENT
  276C MEDIUM :LEFT-POINTING ANGLE BRACKET ORNAMENT;RIGHT-POINTING ANGLE BRACKET ORNAMENT
  276E HEAVY :LEFT-POINTING ANGLE QUOTATION MARK ORNAMENT;RIGHT-POINTING ANGLE QUOTATION MARK ORNAMENT
  2770 HEAVY :LEFT-POINTING ANGLE BRACKET ORNAMENT;RIGHT-POINTING ANGLE BRACKET ORNAMENT
  2772 LIGHT :LEFT TORTOISE SHELL BRACKET ORNAMENT;RIGHT TORTOISE SHELL BRACKET ORNAMENT
  2774 MEDIUM :LEFT CURLY BRACKET ORNAMENT;RIGHT CURLY BRACKET ORNAMENT
  2776 DINGBAT NEGATIVE CIRCLED DIGIT :ONE;TWO;THREE;FOUR;FIVE;SIX;SEVEN;EIGHT;NINE
  277F :DINGBAT NEGATIVE CIRCLED NUMBER TEN
  2780 DINGBAT CIRCLED SANS-SERIF DIGIT :ONE;TWO;THREE;FOUR;FIVE;SIX;SEVEN;EIGHT;NINE
  2789 :DINGBAT CIRCLED SANS-SERIF NUMBER TEN
  278A DINGBAT NEGATIVE CIRCLED SANS-SERIF DIGIT :ONE;TWO;THREE;FOUR;FIVE;SIX;SEVEN;EIGHT;NINE
  2793 :DINGBAT NEGATIVE CIRCLED SANS-SERIF NUMBER TEN
  2794 HEAVY :WIDE-HEADED RIGHTWARDS ARROW;PLUS SIGN;MINUS SIGN;DIVISION SIGN;SOUTH EAST ARROW;RIGHTWARDS ARROW
  279A :HEAVY NORTH EAST ARROW;DRAFTING POINT RIGHTWARDS ARROW
  279C :HEAVY ROUND-TIPPED RIGHTWARDS ARROW;TRIANGLE-HEADED RIGHTWARDS ARROW;HEAVY TRIANGLE-HEADED RIGHTWARDS ARROW
  279F :DASHED TRIANGLE-HEADED RIGHTWARDS ARROW;HEAVY DASHED TRIANGLE-HEADED RIGHTWARDS ARROW;BLACK RIGHTWARDS ARROW
  27A2 THREE-D :TOP-LIGHTED RIGHTWARDS ARROWHEAD;BOTTOM-LIGHTED RIGHTWARDS ARROWHEAD
  27A4 :BLACK RIGHTWARDS ARROWHEAD
  27A5 HEAVY BLACK CURVED :DOWNWARDS AND RIGHTWARDS ARROW;UPWARDS AND RIGHTWARDS ARROW
  27A7 :SQUAT BLACK RIGHTWARDS ARROW;HEAVY CONCAVE-POINTED BLACK RIGHTWARDS ARROW;RIGHT-SHADED WHITE RIGHTWARDS ARROW
  27AA :LEFT-SHADED WHITE RIGHTWARDS ARROW;BACK-TILTED SHADOWED WHITE RIGHTWARDS ARROW
  27AC :FRONT-TILTED SHADOWED WHITE RIGHTWARDS ARROW;HEAVY LOWER RIGHT-SHADOWED WHITE RIGHTWARDS ARROW
  27AE :HEAVY UPPER RIGHT-SHADOWED WHITE RIGHTWARDS ARROW;NOTCHED LOWER RIGHT-SHADOWED WHITE RIGHTWARDS ARROW
  27B0 :CURLY LOOP;NOTCHED UPPER RIGHT-SHADOWED WHITE RIGHTWARDS ARROW
  27B2 :CIRCLED HEAVY WHITE RIGHTWARDS ARROW;WHITE-FEATHERED RIGHTWARDS ARROW
  27B4 BLACK-FEATHERED :SOUTH EAST ARROW;RIGHTWARDS ARROW;NORTH EAST ARROW
  27B7 HEAVY BLACK-FEATHERED :SOUTH EAST ARROW;RIGHTWARDS ARROW;NORTH EAST ARROW
  27BA :TEARDROP-BARBED RIGHTWARDS ARROW;HEAVY TEARDROP-SHANKED RIGHTWARDS ARROW
  27BC :WEDGE-TAILED RIGHTWARDS ARROW;HEAVY WEDGE-TAILED RIGHTWARDS ARROW;OPEN-OUTLINED RIGHTWARDS ARROW
  27BF :DOUBLE CURLY LOOP;THREE DIMENSIONAL ANGLE;WHITE TRIANGLE CONTAINING SMALL WHITE TRIANGLE
  27C2 :PERPENDICULAR;OPEN SUBSET;OPEN SUPERSET;LEFT S-SHAPED BAG DELIMITER
  27C6 :RIGHT S-SHAPED BAG DELIMITER;OR WITH DOT INSIDE;REVERSE SOLIDUS PRECEDING SUBSET;SUPERSET PRECEDING SOLIDUS
  27CA :VERTICAL BAR WITH HORIZONTAL STROKE;MATHEMATICAL RISING DIAGONAL;LONG DIVISION;MATHEMATICAL FALLING DIAGONAL
  27CE SQUARED LOGICAL :AND;OR
  27D0 :WHITE DIAMOND WITH CENTRED DOT;AND WITH DOT;ELEMENT OF OPENING UPWARDS;LOWER RIGHT CORNER WITH DOT
  27D4 :UPPER LEFT CORNER WITH DOT;LEFT OUTER JOIN;RIGHT OUTER JOIN;FULL OUTER JOIN;LARGE UP TACK;LARGE DOWN TACK
  27DA LEFT AND RIGHT :DOUBLE TURNSTILE;TACK
  27DC :LEFT MULTIMAP;LONG RIGHT TACK;LONG LEFT TACK;UP TACK WITH CIRCLE ABOVE;LOZENGE DIVIDED BY HORIZONTAL RULE
  27E1 WHITE CONCAVE-SIDED :DIAMOND;DIAMOND WITH LEFTWARDS TICK;DIAMOND WITH RIGHTWARDS TICK
  27E4 WHITE SQUARE WITH :LEFTWARDS TICK;RIGHTWARDS TICK
  27E6 MATHEMATICAL :LEFT WHITE SQUARE BRACKET;RIGHT WHITE SQUARE BRACKET;LEFT ANGLE BRACKET;RIGHT ANGLE BRACKET
  27EA MATHEMATICAL :LEFT DOUBLE ANGLE BRACKET;RIGHT DOUBLE ANGLE BRACKET;LEFT WHITE TORTOISE SHELL BRACKET
  27ED MATHEMATICAL :RIGHT WHITE TORTOISE SHELL BRACKET;LEFT FLATTENED PARENTHESIS;RIGHT FLATTENED PARENTHESIS
  27F0 :UPWARDS QUADRUPLE ARROW;DOWNWARDS QUADRUPLE ARROW;ANTICLOCKWISE GAPPED CIRCLE ARROW
  27F3 :CLOCKWISE GAPPED CIRCLE ARROW;RIGHT ARROW WITH CIRCLED PLUS;LONG LEFTWARDS ARROW
  27F6 LONG :RIGHTWARDS ARROW;LEFT RIGHT ARROW;LEFTWARDS DOUBLE ARROW;RIGHTWARDS DOUBLE ARROW;LEFT RIGHT DOUBLE ARROW
  27FB LONG :LEFTWARDS ARROW FROM BAR;RIGHTWARDS ARROW FROM BAR;LEFTWARDS DOUBLE ARROW FROM BAR
  27FE LONG RIGHTWARDS :DOUBLE ARROW FROM BAR;SQUIGGLE ARROW
  2800 :BRAILLE PATTERN BLANK
  2801 BRAILLE PATTERN DOTS-:1;2;12;3;13;23;123;4;14;24;124;34;134;234;1234;5
  2811 BRAILLE PATTERN DOTS-:15;25;125;35;135;235;1235;45;145;245;1245;345;1345;2345;12345;6;16;26;126;36;136;236;1236
  2828 BRAILLE PATTERN DOTS-:46;146;246;1246;346;1346;2346;12346;56;156;256;1256;356;1356;2356;12356;456;1456;2456
  283B BRAILLE PATTERN DOTS-:12456;3456;13456;23456;123456;7;17;27;127;37;137;237;1237;47;147;247;1247;347;1347;2347
  284F BRAILLE PATTERN DOTS-:12347;57;157;257;1257;357;1357;2357;12357;457;1457;2457;12457;3457;13457;23457;123457
  2860 BRAILLE PATTERN DOTS-:67;167;267;1267;367;1367;2367;12367;467;1467;2467;12467;3467;13467;23467;123467;567;1567
  2872 BRAILLE PATTERN DOTS-:2567;12567;3567;13567;23567;123567;4567;14567;24567;124567;34567;134567;234567;1234567
  2880 BRAILLE PATTERN DOTS-:8;18;28;128;38;138;238;1238;48;148;248;1248;348;1348;2348;12348;58;158;258;1258;358
  2895 BRAILLE PATTERN DOTS-:1358;2358;12358;458;1458;2458;12458;3458;13458;23458;123458;68;168;268;1268;368;1368;2368
  28A7 BRAILLE PATTERN DOTS-:12368;468;1468;2468;12468;3468;13468;23468;123468;568;1568;2568;12568;3568;13568;23568
  28B7 BRAILLE PATTERN DOTS-:123568;4568;14568;24568;124568;34568;134568;234568;1234568;78;178;278;1278;378;1378;2378
  28C7 BRAILLE PATTERN DOTS-:12378;478;1478;2478;12478;3478;13478;23478;123478;578;1578;2578;12578;3578;13578;23578
  28D7 BRAILLE PATTERN DOTS-:123578;4578;14578;24578;124578;34578;134578;234578;1234578;678;1678;2678;12678;3678;13678
  28E6 BRAILLE PATTERN DOTS-:23678;123678;4678;14678;24678;124678;34678;134678;234678;1234678;5678;15678;25678;125678
  28F4 BRAILLE PATTERN DOTS-:35678;135678;235678;1235678;45678;145678;245678;1245678;345678;1345678;2345678;12345678
  2900 RIGHTWARDS TWO-HEADED ARROW WITH :VERTICAL STROKE;DOUBLE VERTICAL STROKE
  2902 :LEFTWARDS DOUBLE ARROW WITH VERTICAL STROKE;RIGHTWARDS DOUBLE ARROW WITH VERTICAL STROKE
  2904 :LEFT RIGHT DOUBLE ARROW WITH VERTICAL STROKE;RIGHTWARDS TWO-HEADED ARROW FROM BAR
  2906 :LEFTWARDS DOUBLE ARROW FROM BAR;RIGHTWARDS DOUBLE ARROW FROM BAR;DOWNWARDS ARROW WITH HORIZONTAL STROKE
  2909 UPWARDS :ARROW WITH HORIZONTAL STROKE;TRIPLE ARROW
  290B :DOWNWARDS TRIPLE ARROW;LEFTWARDS DOUBLE DASH ARROW;RIGHTWARDS DOUBLE DASH ARROW;LEFTWARDS TRIPLE DASH ARROW
  290F RIGHTWARDS :TRIPLE DASH ARROW;TWO-HEADED TRIPLE DASH ARROW;ARROW WITH DOTTED STEM
  2912 :UPWARDS ARROW TO BAR;DOWNWARDS ARROW TO BAR
  2914 RIGHTWARDS ARROW WITH TAIL WITH :VERTICAL STROKE;DOUBLE VERTICAL STROKE
  2916 RIGHTWARDS TWO-HEADED ARROW WITH :TAIL;TAIL WITH VERTICAL STROKE;TAIL WITH DOUBLE VERTICAL STROKE
  2919 :LEFTWARDS ARROW-TAIL;RIGHTWARDS ARROW-TAIL;LEFTWARDS DOUBLE ARROW-TAIL
  291C :RIGHTWARDS DOUBLE ARROW-TAIL;LEFTWARDS ARROW TO BLACK DIAMOND;RIGHTWARDS ARROW TO BLACK DIAMOND
  291F :LEFTWARDS ARROW FROM BAR TO BLACK DIAMOND;RIGHTWARDS ARROW FROM BAR TO BLACK DIAMOND
  2921 NORTH :WEST AND SOUTH EAST ARROW;EAST AND SOUTH WEST ARROW;WEST ARROW WITH HOOK;EAST ARROW WITH HOOK
  2925 SOUTH :EAST ARROW WITH HOOK;WEST ARROW WITH HOOK
  2927 NORTH :WEST ARROW AND NORTH EAST ARROW;EAST ARROW AND SOUTH EAST ARROW
  2929 SOUTH :EAST ARROW AND SOUTH WEST ARROW;WEST ARROW AND NORTH WEST ARROW
  292B :RISING DIAGONAL CROSSING FALLING DIAGONAL;FALLING DIAGONAL CROSSING RISING DIAGONAL
  292D :SOUTH EAST ARROW CROSSING NORTH EAST ARROW;NORTH EAST ARROW CROSSING SOUTH EAST ARROW
  292F :FALLING DIAGONAL CROSSING NORTH EAST ARROW;RISING DIAGONAL CROSSING SOUTH EAST ARROW
  2931 NORTH :EAST ARROW CROSSING NORTH WEST ARROW;WEST ARROW CROSSING NORTH EAST ARROW
  2933 :WAVE ARROW POINTING DIRECTLY RIGHT
  2934 ARROW POINTING RIGHTWARDS THEN CURVING :UPWARDS;DOWNWARDS
  2936 ARROW POINTING DOWNWARDS THEN CURVING :LEFTWARDS;RIGHTWARDS
  2938 :RIGHT-SIDE ARC CLOCKWISE ARROW
  2939 :LEFT-SIDE ARC ANTICLOCKWISE ARROW;TOP ARC ANTICLOCKWISE ARROW;BOTTOM ARC ANTICLOCKWISE ARROW
  293C TOP ARC :CLOCKWISE ARROW WITH MINUS;ANTICLOCKWISE ARROW WITH PLUS
  293E LOWER :RIGHT SEMICIRCULAR CLOCKWISE ARROW;LEFT SEMICIRCULAR ANTICLOCKWISE ARROW
  2940 :ANTICLOCKWISE CLOSED CIRCLE ARROW;CLOCKWISE CLOSED CIRCLE ARROW
  2942 :RIGHTWARDS ARROW ABOVE SHORT LEFTWARDS ARROW;LEFTWARDS ARROW ABOVE SHORT RIGHTWARDS ARROW
  2944 :SHORT RIGHTWARDS ARROW ABOVE LEFTWARDS ARROW;RIGHTWARDS ARROW WITH PLUS BELOW;LEFTWARDS ARROW WITH PLUS BELOW
  2947 :RIGHTWARDS ARROW THROUGH X;LEFT RIGHT ARROW THROUGH SMALL CIRCLE;UPWARDS TWO-HEADED ARROW FROM SMALL CIRCLE
  294A LEFT BARB :UP RIGHT BARB DOWN HARPOON;DOWN RIGHT BARB UP HARPOON
  294C UP BARB :RIGHT DOWN BARB LEFT HARPOON;LEFT DOWN BARB RIGHT HARPOON
  294E :LEFT BARB UP RIGHT BARB UP HARPOON;UP BARB RIGHT DOWN BARB RIGHT HARPOON
  2950 :LEFT BARB DOWN RIGHT BARB DOWN HARPOON;UP BARB LEFT DOWN BARB LEFT HARPOON
  2952 :LEFTWARDS HARPOON WITH BARB UP TO BAR;RIGHTWARDS HARPOON WITH BARB UP TO BAR
  2954 :UPWARDS HARPOON WITH BARB RIGHT TO BAR;DOWNWARDS HARPOON WITH BARB RIGHT TO BAR
  2956 :LEFTWARDS HARPOON WITH BARB DOWN TO BAR;RIGHTWARDS HARPOON WITH BARB DOWN TO BAR
  2958 :UPWARDS HARPOON WITH BARB LEFT TO BAR;DOWNWARDS HARPOON WITH BARB LEFT TO BAR
  295A :LEFTWARDS HARPOON WITH BARB UP FROM BAR;RIGHTWARDS HARPOON WITH BARB UP FROM BAR
  295C :UPWARDS HARPOON WITH BARB RIGHT FROM BAR;DOWNWARDS HARPOON WITH BARB RIGHT FROM BAR
  295E :LEFTWARDS HARPOON WITH BARB DOWN FROM BAR;RIGHTWARDS HARPOON WITH BARB DOWN FROM BAR
  2960 :UPWARDS HARPOON WITH BARB LEFT FROM BAR;DOWNWARDS HARPOON WITH BARB LEFT FROM BAR
  2962 :LEFTWARDS HARPOON WITH BARB UP ABOVE LEFTWARDS HARPOON WITH BARB DOWN
  2963 :UPWARDS HARPOON WITH BARB LEFT BESIDE UPWARDS HARPOON WITH BARB RIGHT
  2964 :RIGHTWARDS HARPOON WITH BARB UP ABOVE RIGHTWARDS HARPOON WITH BARB DOWN
  2965 :DOWNWARDS HARPOON WITH BARB LEFT BESIDE DOWNWARDS HARPOON WITH BARB RIGHT
  2966 :LEFTWARDS HARPOON WITH BARB UP ABOVE RIGHTWARDS HARPOON WITH BARB UP
  2967 :LEFTWARDS HARPOON WITH BARB DOWN ABOVE RIGHTWARDS HARPOON WITH BARB DOWN
  2968 :RIGHTWARDS HARPOON WITH BARB UP ABOVE LEFTWARDS HARPOON WITH BARB UP
  2969 :RIGHTWARDS HARPOON WITH BARB DOWN ABOVE LEFTWARDS HARPOON WITH BARB DOWN
  296A LEFTWARDS HARPOON WITH BARB :UP ABOVE LONG DASH;DOWN BELOW LONG DASH
  296C RIGHTWARDS HARPOON WITH BARB :UP ABOVE LONG DASH;DOWN BELOW LONG DASH
  296E :UPWARDS HARPOON WITH BARB LEFT BESIDE DOWNWARDS HARPOON WITH BARB RIGHT
  296F :DOWNWARDS HARPOON WITH BARB LEFT BESIDE UPWARDS HARPOON WITH BARB RIGHT;RIGHT DOUBLE ARROW WITH ROUNDED HEAD
  2971 :EQUALS SIGN ABOVE RIGHTWARDS ARROW;TILDE OPERATOR ABOVE RIGHTWARDS ARROW;LEFTWARDS ARROW ABOVE TILDE OPERATOR
  2974 RIGHTWARDS ARROW ABOVE :TILDE OPERATOR;ALMOST EQUAL TO
  2976 :LESS-THAN ABOVE LEFTWARDS ARROW;LEFTWARDS ARROW THROUGH LESS-THAN;GREATER-THAN ABOVE RIGHTWARDS ARROW
  2979 :SUBSET ABOVE RIGHTWARDS ARROW;LEFTWARDS ARROW THROUGH SUBSET;SUPERSET ABOVE LEFTWARDS ARROW
  297C :LEFT FISH TAIL;RIGHT FISH TAIL;UP FISH TAIL;DOWN FISH TAIL;TRIPLE VERTICAL BAR DELIMITER
  2981 Z NOTATION :SPOT;TYPE COLON
  2983 :LEFT WHITE CURLY BRACKET;RIGHT WHITE CURLY BRACKET;LEFT WHITE PARENTHESIS;RIGHT WHITE PARENTHESIS
  2987 Z NOTATION :LEFT IMAGE BRACKET;RIGHT IMAGE BRACKET;LEFT BINDING BRACKET;RIGHT BINDING BRACKET
  298B :LEFT SQUARE BRACKET WITH UNDERBAR
  298C :RIGHT SQUARE BRACKET WITH UNDERBAR;LEFT SQUARE BRACKET WITH TICK IN TOP CORNER
  298E :RIGHT SQUARE BRACKET WITH TICK IN BOTTOM CORNER;LEFT SQUARE BRACKET WITH TICK IN BOTTOM CORNER
  2990 :RIGHT SQUARE BRACKET WITH TICK IN TOP CORNER;LEFT ANGLE BRACKET WITH DOT
  2992 :RIGHT ANGLE BRACKET WITH DOT;LEFT ARC LESS-THAN BRACKET;RIGHT ARC GREATER-THAN BRACKET
  2995 :DOUBLE LEFT ARC GREATER-THAN BRACKET;DOUBLE RIGHT ARC LESS-THAN BRACKET;LEFT BLACK TORTOISE SHELL BRACKET
  2998 :RIGHT BLACK TORTOISE SHELL BRACKET;DOTTED FENCE;VERTICAL ZIGZAG LINE;MEASURED ANGLE OPENING LEFT
  299C :RIGHT ANGLE VARIANT WITH SQUARE;MEASURED RIGHT ANGLE WITH DOT;ANGLE WITH S INSIDE;ACUTE ANGLE
  29A0 SPHERICAL ANGLE OPENING :LEFT;UP
  29A2 :TURNED ANGLE;REVERSED ANGLE;ANGLE WITH UNDERBAR;REVERSED ANGLE WITH UNDERBAR
  29A6 OBLIQUE ANGLE OPENING :UP;DOWN
  29A8 MEASURED ANGLE WITH OPEN ARM ENDING IN ARROW POINTING :UP AND RIGHT;UP AND LEFT;DOWN AND RIGHT;DOWN AND LEFT
  29AC MEASURED ANGLE WITH OPEN ARM ENDING IN ARROW POINTING :RIGHT AND UP;LEFT AND UP;RIGHT AND DOWN;LEFT AND DOWN
  29B0 :REVERSED EMPTY SET
  29B1 EMPTY SET WITH :OVERBAR;SMALL CIRCLE ABOVE;RIGHT ARROW ABOVE;LEFT ARROW ABOVE
  29B5 :CIRCLE WITH HORIZONTAL BAR
  29B6 CIRCLED :VERTICAL BAR;PARALLEL;REVERSE SOLIDUS;PERPENDICULAR
  29BA CIRCLE :DIVIDED BY HORIZONTAL BAR AND TOP HALF DIVIDED BY VERTICAL BAR;WITH SUPERIMPOSED X
  29BC :CIRCLED ANTICLOCKWISE-ROTATED DIVISION SIGN;UP ARROW THROUGH CIRCLE
  29BE CIRCLED :WHITE BULLET;BULLET;LESS-THAN;GREATER-THAN
  29C2 CIRCLE WITH :SMALL CIRCLE TO THE RIGHT;TWO HORIZONTAL STROKES TO THE RIGHT
  29C4 SQUARED :RISING DIAGONAL SLASH;FALLING DIAGONAL SLASH;ASTERISK;SMALL CIRCLE;SQUARE
  29C9 :TWO JOINED SQUARES;TRIANGLE WITH DOT ABOVE;TRIANGLE WITH UNDERBAR;S IN TRIANGLE;TRIANGLE WITH SERIFS AT BOTTOM
  29CE :RIGHT TRIANGLE ABOVE LEFT TRIANGLE;LEFT TRIANGLE BESIDE VERTICAL BAR;VERTICAL BAR BESIDE RIGHT TRIANGLE
  29D1 BOWTIE WITH :LEFT HALF BLACK;RIGHT HALF BLACK
  29D3 :BLACK BOWTIE
  29D4 TIMES WITH :LEFT HALF BLACK;RIGHT HALF BLACK
  29D6 :WHITE HOURGLASS;BLACK HOURGLASS;LEFT WIGGLY FENCE;RIGHT WIGGLY FENCE;LEFT DOUBLE WIGGLY FENCE
  29DB :RIGHT DOUBLE WIGGLY FENCE;INCOMPLETE INFINITY;TIE OVER INFINITY;INFINITY NEGATED WITH VERTICAL BAR
  29DF :DOUBLE-ENDED MULTIMAP;SQUARE WITH CONTOURED OUTLINE;INCREASES AS;SHUFFLE PRODUCT
  29E3 EQUALS SIGN AND SLANTED :PARALLEL;PARALLEL WITH TILDE ABOVE
  29E5 :IDENTICAL TO AND SLANTED PARALLEL;GLEICH STARK;THERMODYNAMIC
  29E8 DOWN-POINTING TRIANGLE WITH :LEFT HALF BLACK;RIGHT HALF BLACK
  29EA :BLACK DIAMOND WITH DOWN ARROW;BLACK LOZENGE;WHITE CIRCLE WITH DOWN ARROW;BLACK CIRCLE WITH DOWN ARROW
  29EE ERROR-BARRED :WHITE SQUARE;BLACK SQUARE;WHITE DIAMOND;BLACK DIAMOND;WHITE CIRCLE;BLACK CIRCLE
  29F4 :RULE-DELAYED;REVERSE SOLIDUS OPERATOR;SOLIDUS WITH OVERBAR;REVERSE SOLIDUS WITH HORIZONTAL STROKE
  29F8 BIG :SOLIDUS;REVERSE SOLIDUS
  29FA :DOUBLE PLUS;TRIPLE PLUS;LEFT-POINTING CURVED ANGLE BRACKET;RIGHT-POINTING CURVED ANGLE BRACKET;TINY;MINY
  2A00 N-ARY CIRCLED :DOT OPERATOR;PLUS OPERATOR;TIMES OPERATOR
  2A03 N-ARY UNION OPERATOR WITH :DOT;PLUS
  2A05 N-ARY SQUARE :INTERSECTION OPERATOR;UNION OPERATOR
  2A07 TWO LOGICAL :AND OPERATOR;OR OPERATOR
  2A09 :N-ARY TIMES OPERATOR;MODULO TWO SUM;SUMMATION WITH INTEGRAL;QUADRUPLE INTEGRAL OPERATOR;FINITE PART INTEGRAL
  2A0E INTEGRAL :WITH DOUBLE STROKE;AVERAGE WITH SLASH
  2A10 :CIRCULATION FUNCTION;ANTICLOCKWISE INTEGRATION
  2A12 LINE INTEGRATION :WITH RECTANGULAR PATH AROUND POLE;WITH SEMICIRCULAR PATH AROUND POLE;NOT INCLUDING THE POLE
  2A15 :INTEGRAL AROUND A POINT OPERATOR;QUATERNION INTEGRAL OPERATOR
  2A17 INTEGRAL WITH :LEFTWARDS ARROW WITH HOOK;TIMES SIGN;INTERSECTION;UNION;OVERBAR;UNDERBAR
  2A1D :JOIN;LARGE LEFT TRIANGLE OPERATOR
  2A1F Z NOTATION SCHEMA :COMPOSITION;PIPING;PROJECTION
  2A22 :PLUS SIGN WITH SMALL CIRCLE ABOVE
  2A23 PLUS SIGN WITH :CIRCUMFLEX ACCENT ABOVE;TILDE ABOVE;DOT BELOW;TILDE BELOW;SUBSCRIPT TWO;BLACK TRIANGLE
  2A29 MINUS SIGN WITH :COMMA ABOVE;DOT BELOW;FALLING DOTS;RISING DOTS
  2A2D PLUS SIGN IN :LEFT HALF CIRCLE;RIGHT HALF CIRCLE
  2A2F :VECTOR OR CROSS PRODUCT
  2A30 MULTIPLICATION SIGN WITH :DOT ABOVE;UNDERBAR
  2A32 :SEMIDIRECT PRODUCT WITH BOTTOM CLOSED;SMASH PRODUCT
  2A34 MULTIPLICATION SIGN IN :LEFT HALF CIRCLE;RIGHT HALF CIRCLE
  2A36 :CIRCLED MULTIPLICATION SIGN WITH CIRCUMFLEX ACCENT;MULTIPLICATION SIGN IN DOUBLE CIRCLE;CIRCLED DIVISION SIGN
  2A39 :PLUS SIGN IN TRIANGLE;MINUS SIGN IN TRIANGLE;MULTIPLICATION SIGN IN TRIANGLE;INTERIOR PRODUCT
  2A3D :RIGHTHAND INTERIOR PRODUCT;Z NOTATION RELATIONAL COMPOSITION;AMALGAMATION OR COPRODUCT;INTERSECTION WITH DOT
  2A41 UNION WITH :MINUS SIGN;OVERBAR
  2A43 INTERSECTION WITH :OVERBAR;LOGICAL AND
  2A45 UNION :WITH LOGICAL OR;ABOVE INTERSECTION
  2A47 :INTERSECTION ABOVE UNION;UNION ABOVE BAR ABOVE INTERSECTION;INTERSECTION ABOVE BAR ABOVE UNION
  2A4A :UNION BESIDE AND JOINED WITH UNION;INTERSECTION BESIDE AND JOINED WITH INTERSECTION
  2A4C CLOSED :UNION WITH SERIFS;INTERSECTION WITH SERIFS
  2A4E DOUBLE SQUARE :INTERSECTION;UNION
  2A50 :CLOSED UNION WITH SERIFS AND SMASH PRODUCT
  2A51 LOGICAL :AND WITH DOT ABOVE;OR WITH DOT ABOVE
  2A53 DOUBLE LOGICAL :AND;OR
  2A55 TWO INTERSECTING LOGICAL :AND;OR
  2A57 SLOPING LARGE :OR;AND
  2A59 :LOGICAL OR OVERLAPPING LOGICAL AND
  2A5A LOGICAL :AND WITH MIDDLE STEM;OR WITH MIDDLE STEM;AND WITH HORIZONTAL DASH;OR WITH HORIZONTAL DASH
  2A5E LOGICAL AND WITH :DOUBLE OVERBAR;UNDERBAR;DOUBLE UNDERBAR
  2A61 :SMALL VEE WITH UNDERBAR
  2A62 LOGICAL OR WITH DOUBLE :OVERBAR;UNDERBAR
  2A64 Z NOTATION :DOMAIN ANTIRESTRICTION;RANGE ANTIRESTRICTION
  2A66 :EQUALS SIGN WITH DOT BELOW;IDENTICAL WITH DOT ABOVE
  2A68 TRIPLE HORIZONTAL BAR WITH :DOUBLE VERTICAL STROKE;TRIPLE VERTICAL STROKE
  2A6A TILDE OPERATOR WITH :DOT ABOVE;RISING DOTS
  2A6C :SIMILAR MINUS SIMILAR;CONGRUENT WITH DOT ABOVE
  2A6E :EQUALS WITH ASTERISK;ALMOST EQUAL TO WITH CIRCUMFLEX ACCENT;APPROXIMATELY EQUAL OR EQUAL TO
  2A71 :EQUALS SIGN ABOVE PLUS SIGN;PLUS SIGN ABOVE EQUALS SIGN;EQUALS SIGN ABOVE TILDE OPERATOR
  2A74 :DOUBLE COLON EQUAL;TWO CONSECUTIVE EQUALS SIGNS;THREE CONSECUTIVE EQUALS SIGNS
  2A77 :EQUALS SIGN WITH TWO DOTS ABOVE AND TWO DOTS BELOW;EQUIVALENT WITH FOUR DOTS ABOVE
  2A79 :LESS-THAN WITH CIRCLE INSIDE;GREATER-THAN WITH CIRCLE INSIDE;LESS-THAN WITH QUESTION MARK ABOVE
  2A7C :GREATER-THAN WITH QUESTION MARK ABOVE;LESS-THAN OR SLANTED EQUAL TO;GREATER-THAN OR SLANTED EQUAL TO
  2A7F :LESS-THAN OR SLANTED EQUAL TO WITH DOT INSIDE;GREATER-THAN OR SLANTED EQUAL TO WITH DOT INSIDE
  2A81 :LESS-THAN OR SLANTED EQUAL TO WITH DOT ABOVE;GREATER-THAN OR SLANTED EQUAL TO WITH DOT ABOVE
  2A83 :LESS-THAN OR SLANTED EQUAL TO WITH DOT ABOVE RIGHT;GREATER-THAN OR SLANTED EQUAL TO WITH DOT ABOVE LEFT
  2A85 :LESS-THAN OR APPROXIMATE;GREATER-THAN OR APPROXIMATE;LESS-THAN AND SINGLE-LINE NOT EQUAL TO
  2A88 :GREATER-THAN AND SINGLE-LINE NOT EQUAL TO;LESS-THAN AND NOT APPROXIMATE;GREATER-THAN AND NOT APPROXIMATE
  2A8B :LESS-THAN ABOVE DOUBLE-LINE EQUAL ABOVE GREATER-THAN;GREATER-THAN ABOVE DOUBLE-LINE EQUAL ABOVE LESS-THAN
  2A8D :LESS-THAN ABOVE SIMILAR OR EQUAL;GREATER-THAN ABOVE SIMILAR OR EQUAL
  2A8F :LESS-THAN ABOVE SIMILAR ABOVE GREATER-THAN;GREATER-THAN ABOVE SIMILAR ABOVE LESS-THAN
  2A91 :LESS-THAN ABOVE GREATER-THAN ABOVE DOUBLE-LINE EQUAL;GREATER-THAN ABOVE LESS-THAN ABOVE DOUBLE-LINE EQUAL
  2A93 :LESS-THAN ABOVE SLANTED EQUAL ABOVE GREATER-THAN ABOVE SLANTED EQUAL
  2A94 :GREATER-THAN ABOVE SLANTED EQUAL ABOVE LESS-THAN ABOVE SLANTED EQUAL
  2A95 SLANTED EQUAL TO OR :LESS-THAN;GREATER-THAN;LESS-THAN WITH DOT INSIDE;GREATER-THAN WITH DOT INSIDE
  2A99 DOUBLE-LINE EQUAL TO OR :LESS-THAN;GREATER-THAN
  2A9B DOUBLE-LINE SLANTED EQUAL TO OR :LESS-THAN;GREATER-THAN
  2A9D SIMILAR :OR LESS-THAN;OR GREATER-THAN;ABOVE LESS-THAN ABOVE EQUALS SIGN;ABOVE GREATER-THAN ABOVE EQUALS SIGN
  2AA1 DOUBLE NESTED :LESS-THAN;GREATER-THAN;LESS-THAN WITH UNDERBAR
  2AA4 GREATER-THAN :OVERLAPPING LESS-THAN;BESIDE LESS-THAN
  2AA6 :LESS-THAN CLOSED BY CURVE;GREATER-THAN CLOSED BY CURVE;LESS-THAN CLOSED BY CURVE ABOVE SLANTED EQUAL
  2AA9 :GREATER-THAN CLOSED BY CURVE ABOVE SLANTED EQUAL;SMALLER THAN;LARGER THAN;SMALLER THAN OR EQUAL TO
  2AAD :LARGER THAN OR EQUAL TO;EQUALS SIGN WITH BUMPY ABOVE;PRECEDES ABOVE SINGLE-LINE EQUALS SIGN
  2AB0 :SUCCEEDS ABOVE SINGLE-LINE EQUALS SIGN;PRECEDES ABOVE SINGLE-LINE NOT EQUAL TO
  2AB2 :SUCCEEDS ABOVE SINGLE-LINE NOT EQUAL TO;PRECEDES ABOVE EQUALS SIGN;SUCCEEDS ABOVE EQUALS SIGN
  2AB5 :PRECEDES ABOVE NOT EQUAL TO;SUCCEEDS ABOVE NOT EQUAL TO;PRECEDES ABOVE ALMOST EQUAL TO
  2AB8 :SUCCEEDS ABOVE ALMOST EQUAL TO;PRECEDES ABOVE NOT ALMOST EQUAL TO;SUCCEEDS ABOVE NOT ALMOST EQUAL TO
  2ABB :DOUBLE PRECEDES;DOUBLE SUCCEEDS;SUBSET WITH DOT;SUPERSET WITH DOT;SUBSET WITH PLUS SIGN BELOW
  2AC0 :SUPERSET WITH PLUS SIGN BELOW;SUBSET WITH MULTIPLICATION SIGN BELOW;SUPERSET WITH MULTIPLICATION SIGN BELOW
  2AC3 :SUBSET OF OR EQUAL TO WITH DOT ABOVE;SUPERSET OF OR EQUAL TO WITH DOT ABOVE;SUBSET OF ABOVE EQUALS SIGN
  2AC6 :SUPERSET OF ABOVE EQUALS SIGN;SUBSET OF ABOVE TILDE OPERATOR;SUPERSET OF ABOVE TILDE OPERATOR
  2AC9 :SUBSET OF ABOVE ALMOST EQUAL TO;SUPERSET OF ABOVE ALMOST EQUAL TO;SUBSET OF ABOVE NOT EQUAL TO
  2ACC :SUPERSET OF ABOVE NOT EQUAL TO;SQUARE LEFT OPEN BOX OPERATOR;SQUARE RIGHT OPEN BOX OPERATOR
  2ACF CLOSED :SUBSET;SUPERSET;SUBSET OR EQUAL TO;SUPERSET OR EQUAL TO
  2AD3 :SUBSET ABOVE SUPERSET;SUPERSET ABOVE SUBSET;SUBSET ABOVE SUBSET
  2AD6 SUPERSET :ABOVE SUPERSET;BESIDE SUBSET;BESIDE AND JOINED BY DASH WITH SUBSET
  2AD9 :ELEMENT OF OPENING DOWNWARDS;PITCHFORK WITH TEE TOP;TRANSVERSAL INTERSECTION;FORKING;NONFORKING
  2ADE SHORT :LEFT TACK;DOWN TACK;UP TACK
  2AE1 :PERPENDICULAR WITH S;VERTICAL BAR TRIPLE RIGHT TURNSTILE;DOUBLE VERTICAL BAR LEFT TURNSTILE
  2AE4 :VERTICAL BAR DOUBLE LEFT TURNSTILE;DOUBLE VERTICAL BAR DOUBLE LEFT TURNSTILE
  2AE6 :LONG DASH FROM LEFT MEMBER OF DOUBLE VERTICAL;SHORT DOWN TACK WITH OVERBAR
  2AE8 SHORT UP TACK :WITH UNDERBAR;ABOVE SHORT DOWN TACK
  2AEA DOUBLE :DOWN TACK;UP TACK;STROKE NOT SIGN
  2AED :REVERSED DOUBLE STROKE NOT SIGN;DOES NOT DIVIDE WITH REVERSED NEGATION SLASH
  2AEF VERTICAL LINE WITH CIRCLE :ABOVE;BELOW
  2AF1 :DOWN TACK WITH CIRCLE BELOW
  2AF2 PARALLEL WITH :HORIZONTAL STROKE;TILDE OPERATOR
  2AF4 TRIPLE VERTICAL BAR :BINARY RELATION;WITH HORIZONTAL STROKE
  2AF6 TRIPLE :COLON OPERATOR;NESTED LESS-THAN;NESTED GREATER-THAN
  2AF9 DOUBLE-LINE SLANTED :LESS-THAN OR EQUAL TO;GREATER-THAN OR EQUAL TO
  2AFB :TRIPLE SOLIDUS BINARY RELATION;LARGE TRIPLE VERTICAL BAR OPERATOR;DOUBLE SOLIDUS OPERATOR;WHITE VERTICAL BAR
  2AFF :N-ARY WHITE VERTICAL BAR;NORTH EAST WHITE ARROW;NORTH WEST WHITE ARROW;SOUTH EAST WHITE ARROW
  2B03 :SOUTH WEST WHITE ARROW;LEFT RIGHT WHITE ARROW;LEFTWARDS BLACK ARROW;UPWARDS BLACK ARROW;DOWNWARDS BLACK ARROW
  2B08 NORTH :EAST BLACK ARROW;WEST BLACK ARROW
  2B0A :SOUTH EAST BLACK ARROW;SOUTH WEST BLACK ARROW;LEFT RIGHT BLACK ARROW;UP DOWN BLACK ARROW
  2B0E RIGHTWARDS ARROW WITH TIP :DOWNWARDS;UPWARDS
  2B10 LEFTWARDS ARROW WITH TIP :DOWNWARDS;UPWARDS
  2B12 SQUARE WITH :TOP HALF BLACK;BOTTOM HALF BLACK;UPPER RIGHT DIAGONAL HALF BLACK;LOWER LEFT DIAGONAL HALF BLACK
  2B16 DIAMOND WITH :LEFT HALF BLACK;RIGHT HALF BLACK;TOP HALF BLACK;BOTTOM HALF BLACK
  2B1A :DOTTED SQUARE;BLACK LARGE SQUARE;WHITE LARGE SQUARE;BLACK VERY SMALL SQUARE
  2B1E :WHITE VERY SMALL SQUARE;BLACK PENTAGON;WHITE PENTAGON;WHITE HEXAGON;BLACK HEXAGON;HORIZONTAL BLACK HEXAGON
  2B24 :BLACK LARGE CIRCLE;BLACK MEDIUM DIAMOND;WHITE MEDIUM DIAMOND;BLACK MEDIUM LOZENGE;WHITE MEDIUM LOZENGE
  2B29 BLACK SMALL :DIAMOND;LOZENGE
  2B2B :WHITE SMALL LOZENGE
  2B2C :BLACK HORIZONTAL ELLIPSE;WHITE HORIZONTAL ELLIPSE;BLACK VERTICAL ELLIPSE;WHITE VERTICAL ELLIPSE
  2B30 :LEFT ARROW WITH SMALL CIRCLE;THREE LEFTWARDS ARROWS;LEFT ARROW WITH CIRCLED PLUS;LONG LEFTWARDS SQUIGGLE ARROW
  2B34 LEFTWARDS TWO-HEADED ARROW :WITH VERTICAL STROKE;WITH DOUBLE VERTICAL STROKE;FROM BAR
  2B37 :LEFTWARDS TWO-HEADED TRIPLE DASH ARROW
  2B38 LEFTWARDS ARROW WITH :DOTTED STEM;TAIL WITH VERTICAL STROKE;TAIL WITH DOUBLE VERTICAL STROKE
  2B3B LEFTWARDS TWO-HEADED ARROW WITH :TAIL;TAIL WITH VERTICAL STROKE;TAIL WITH DOUBLE VERTICAL STROKE
  2B3E :LEFTWARDS ARROW THROUGH X;WAVE ARROW POINTING DIRECTLY LEFT;EQUALS SIGN ABOVE LEFTWARDS ARROW
  2B41 :REVERSE TILDE OPERATOR ABOVE LEFTWARDS ARROW;LEFTWARDS ARROW ABOVE REVERSE ALMOST EQUAL TO
  2B43 RIGHTWARDS ARROW THROUGH :GREATER-THAN;SUPERSET
  2B45 :LEFTWARDS QUADRUPLE ARROW;RIGHTWARDS QUADRUPLE ARROW;REVERSE TILDE OPERATOR ABOVE RIGHTWARDS ARROW
  2B48 :RIGHTWARDS ARROW ABOVE REVERSE ALMOST EQUAL TO;TILDE OPERATOR ABOVE LEFTWARDS ARROW
  2B4A LEFTWARDS ARROW ABOVE :ALMOST EQUAL TO;REVERSE TILDE OPERATOR
  2B4C :RIGHTWARDS ARROW ABOVE REVERSE TILDE OPERATOR;DOWNWARDS TRIANGLE-HEADED ZIGZAG ARROW
  2B4E :SHORT SLANTED NORTH ARROW;SHORT BACKSLANTED SOUTH ARROW;WHITE MEDIUM STAR
  2B51 :BLACK SMALL STAR;WHITE SMALL STAR;BLACK RIGHT-POINTING PENTAGON;WHITE RIGHT-POINTING PENTAGON
  2B55 HEAVY :LARGE CIRCLE;OVAL WITH OVAL INSIDE;CIRCLE WITH CIRCLE INSIDE;CIRCLE;CIRCLED SALTIRE
  2B5A :SLANTED NORTH ARROW WITH HOOKED HEAD;BACKSLANTED SOUTH ARROW WITH HOOKED TAIL
  2B5C :SLANTED NORTH ARROW WITH HORIZONTAL TAIL;BACKSLANTED SOUTH ARROW WITH HORIZONTAL TAIL
  2B5E :BENT ARROW POINTING DOWNWARDS THEN NORTH EAST;SHORT BENT ARROW POINTING DOWNWARDS THEN NORTH EAST
  2B60 :LEFTWARDS TRIANGLE-HEADED ARROW;UPWARDS TRIANGLE-HEADED ARROW;RIGHTWARDS TRIANGLE-HEADED ARROW
  2B63 :DOWNWARDS TRIANGLE-HEADED ARROW;LEFT RIGHT TRIANGLE-HEADED ARROW;UP DOWN TRIANGLE-HEADED ARROW
  2B66 NORTH :WEST TRIANGLE-HEADED ARROW;EAST TRIANGLE-HEADED ARROW
  2B68 SOUTH :EAST TRIANGLE-HEADED ARROW;WEST TRIANGLE-HEADED ARROW
  2B6A :LEFTWARDS TRIANGLE-HEADED DASHED ARROW;UPWARDS TRIANGLE-HEADED DASHED ARROW
  2B6C :RIGHTWARDS TRIANGLE-HEADED DASHED ARROW;DOWNWARDS TRIANGLE-HEADED DASHED ARROW
  2B6E :CLOCKWISE TRIANGLE-HEADED OPEN CIRCLE ARROW;ANTICLOCKWISE TRIANGLE-HEADED OPEN CIRCLE ARROW
  2B70 :LEFTWARDS TRIANGLE-HEADED ARROW TO BAR;UPWARDS TRIANGLE-HEADED ARROW TO BAR
  2B72 :RIGHTWARDS TRIANGLE-HEADED ARROW TO BAR;DOWNWARDS TRIANGLE-HEADED ARROW TO BAR
  2B76 NORTH :WEST TRIANGLE-HEADED ARROW TO BAR;EAST TRIANGLE-HEADED ARROW TO BAR
  2B78 SOUTH :EAST TRIANGLE-HEADED ARROW TO BAR;WEST TRIANGLE-HEADED ARROW TO BAR
  2B7A :LEFTWARDS TRIANGLE-HEADED ARROW WITH DOUBLE HORIZONTAL STROKE
  2B7B :UPWARDS TRIANGLE-HEADED ARROW WITH DOUBLE HORIZONTAL STROKE
  2B7C :RIGHTWARDS TRIANGLE-HEADED ARROW WITH DOUBLE HORIZONTAL STROKE
  2B7D :DOWNWARDS TRIANGLE-HEADED ARROW WITH DOUBLE HORIZONTAL STROKE
  2B7E :HORIZONTAL TAB KEY;VERTICAL TAB KEY;LEFTWARDS TRIANGLE-HEADED ARROW OVER RIGHTWARDS TRIANGLE-HEADED ARROW
  2B81 :UPWARDS TRIANGLE-HEADED ARROW LEFTWARDS OF DOWNWARDS TRIANGLE-HEADED ARROW
  2B82 :RIGHTWARDS TRIANGLE-HEADED ARROW OVER LEFTWARDS TRIANGLE-HEADED ARROW
  2B83 :DOWNWARDS TRIANGLE-HEADED ARROW LEFTWARDS OF UPWARDS TRIANGLE-HEADED ARROW
  2B84 :LEFTWARDS TRIANGLE-HEADED PAIRED ARROWS;UPWARDS TRIANGLE-HEADED PAIRED ARROWS
  2B86 :RIGHTWARDS TRIANGLE-HEADED PAIRED ARROWS;DOWNWARDS TRIANGLE-HEADED PAIRED ARROWS
  2B88 :LEFTWARDS BLACK CIRCLED WHITE ARROW;UPWARDS BLACK CIRCLED WHITE ARROW;RIGHTWARDS BLACK CIRCLED WHITE ARROW
  2B8B :DOWNWARDS BLACK CIRCLED WHITE ARROW;ANTICLOCKWISE TRIANGLE-HEADED RIGHT U-SHAPED ARROW
  2B8D ANTICLOCKWISE TRIANGLE-HEADED :BOTTOM U-SHAPED ARROW;LEFT U-SHAPED ARROW;TOP U-SHAPED ARROW
  2B90 RETURN :LEFT;RIGHT
  2B92 NEWLINE :LEFT;RIGHT
  2B94 :FOUR CORNER ARROWS CIRCLING ANTICLOCKWISE;RIGHTWARDS BLACK ARROW
  2B97 :SYMBOL FOR TYPE A ELECTRONICS
  2B98 THREE-D :TOP-LIGHTED LEFTWARDS EQUILATERAL ARROWHEAD;RIGHT-LIGHTED UPWARDS EQUILATERAL ARROWHEAD
  2B9A THREE-D :TOP-LIGHTED RIGHTWARDS EQUILATERAL ARROWHEAD;LEFT-LIGHTED DOWNWARDS EQUILATERAL ARROWHEAD
  2B9C :BLACK LEFTWARDS EQUILATERAL ARROWHEAD
  2B9D BLACK :UPWARDS EQUILATERAL ARROWHEAD;RIGHTWARDS EQUILATERAL ARROWHEAD;DOWNWARDS EQUILATERAL ARROWHEAD
  2BA0 DOWNWARDS TRIANGLE-HEADED ARROW WITH LONG TIP :LEFTWARDS;RIGHTWARDS
  2BA2 UPWARDS TRIANGLE-HEADED ARROW WITH LONG TIP :LEFTWARDS;RIGHTWARDS
  2BA4 :LEFTWARDS TRIANGLE-HEADED ARROW WITH LONG TIP UPWARDS
  2BA5 :RIGHTWARDS TRIANGLE-HEADED ARROW WITH LONG TIP UPWARDS;LEFTWARDS TRIANGLE-HEADED ARROW WITH LONG TIP DOWNWARDS
  2BA7 :RIGHTWARDS TRIANGLE-HEADED ARROW WITH LONG TIP DOWNWARDS
  2BA8 BLACK CURVED DOWNWARDS AND :LEFTWARDS ARROW;RIGHTWARDS ARROW
  2BAA BLACK CURVED :UPWARDS AND LEFTWARDS ARROW;UPWARDS AND RIGHTWARDS ARROW;LEFTWARDS AND UPWARDS ARROW
  2BAD BLACK CURVED :RIGHTWARDS AND UPWARDS ARROW;LEFTWARDS AND DOWNWARDS ARROW;RIGHTWARDS AND DOWNWARDS ARROW
  2BB0 RIBBON ARROW :DOWN LEFT;DOWN RIGHT;UP LEFT;UP RIGHT;LEFT UP;RIGHT UP;LEFT DOWN;RIGHT DOWN
  2BB8 :UPWARDS WHITE ARROW FROM BAR WITH HORIZONTAL BAR;UP ARROWHEAD IN A RECTANGLE BOX
  2BBA OVERLAPPING :WHITE SQUARES;WHITE AND BLACK SQUARES;BLACK SQUARES
  2BBD :BALLOT BOX WITH LIGHT X
  2BBE CIRCLED :X;BOLD X
  2BC0 :BLACK SQUARE CENTRED;BLACK DIAMOND CENTRED;TURNED BLACK PENTAGON;HORIZONTAL BLACK OCTAGON;BLACK OCTAGON
  2BC5 BLACK MEDIUM :UP-POINTING TRIANGLE CENTRED;DOWN-POINTING TRIANGLE CENTRED;LEFT-POINTING TRIANGLE CENTRED
  2BC8 :BLACK MEDIUM RIGHT-POINTING TRIANGLE CENTRED;NEPTUNE FORM TWO;TOP HALF BLACK CIRCLE
  2BCB :BOTTOM HALF BLACK CIRCLE;LIGHT FOUR POINTED BLACK CUSP;ROTATED LIGHT FOUR POINTED BLACK CUSP
  2BCE :WHITE FOUR POINTED CUSP;ROTATED WHITE FOUR POINTED CUSP;SQUARE POSITION INDICATOR;UNCERTAINTY SIGN;GROUP MARK
  2BD3 PLUTO FORM :TWO;THREE;FOUR;FIVE
  2BD7 :TRANSPLUTO
  2BD8 :PROSERPINA;ASTRAEA;HYGIEA;PHOLUS;NESSUS;WHITE MOON SELENA;BLACK DIAMOND ON CROSS;TRUE LIGHT MOON ARTA
  2BE0 :CUPIDO;HADES;ZEUS;KRONOS;APOLLON;ADMETOS;VULCANUS;POSEIDON;LEFT HALF BLACK STAR;RIGHT HALF BLACK STAR
  2BEA STAR WITH :LEFT HALF BLACK;RIGHT HALF BLACK
  2BEC :LEFTWARDS TWO-HEADED ARROW WITH TRIANGLE ARROWHEADS;UPWARDS TWO-HEADED ARROW WITH TRIANGLE ARROWHEADS
  2BEE :RIGHTWARDS TWO-HEADED ARROW WITH TRIANGLE ARROWHEADS;DOWNWARDS TWO-HEADED ARROW WITH TRIANGLE ARROWHEADS
  2BF0 ERIS FORM :ONE;TWO
  2BF2 :SEDNA
  2BF3 RUSSIAN ASTROLOGICAL SYMBOL :VIGINTILE;NOVILE;QUINTILE;BINOVILE;SENTAGON;TREDECILE
  2BF9 :EQUALS SIGN WITH INFINITY BELOW
  2BFA :UNITED SYMBOL;SEPARATED SYMBOL;DOUBLED SYMBOL;PASSED SYMBOL;REVERSED RIGHT ANGLE;HELLSCHREIBER PAUSE SYMBOL
  2C00 GLAGOLITIC CAPITAL LETTER :AZU;BUKY;VEDE;GLAGOLI
  2C04 GLAGOLITIC CAPITAL LETTER :DOBRO;YESTU;ZHIVETE;DZELO;ZEMLJA;IZHE;INITIAL IZHE;I;DJERVI;KAKO;LJUDIJE;MYSLITE
  2C10 GLAGOLITIC CAPITAL LETTER :NASHI;ONU;POKOJI;RITSI;SLOVO;TVRIDO;UKU;FRITU;HERU;OTU;PE;SHTA;TSI;CHRIVI;SHA;YERU
  2C20 GLAGOLITIC CAPITAL LETTER :YERI;YATI;SPIDERY HA;YU;SMALL YUS;SMALL YUS WITH TAIL;YO;IOTATED SMALL YUS;BIG YUS
  2C29 GLAGOLITIC CAPITAL LETTER :IOTATED BIG YUS;FITA;IZHITSA;SHTAPIC;TROKUTASTI A;LATINATE MYSLITE;CAUDATE CHRIVI
  2C30 GLAGOLITIC SMALL LETTER :AZU;BUKY;VEDE;GLAGOLI
  2C34 GLAGOLITIC SMALL LETTER :DOBRO;YESTU;ZHIVETE;DZELO;ZEMLJA;IZHE;INITIAL IZHE;I;DJERVI;KAKO;LJUDIJE;MYSLITE
  2C40 GLAGOLITIC SMALL LETTER :NASHI;ONU;POKOJI;RITSI;SLOVO;TVRIDO;UKU;FRITU;HERU;OTU;PE;SHTA;TSI;CHRIVI;SHA;YERU
  2C50 GLAGOLITIC SMALL LETTER :YERI;YATI;SPIDERY HA;YU;SMALL YUS;SMALL YUS WITH TAIL;YO;IOTATED SMALL YUS;BIG YUS
  2C59 GLAGOLITIC SMALL LETTER :IOTATED BIG YUS;FITA;IZHITSA;SHTAPIC;TROKUTASTI A;LATINATE MYSLITE;CAUDATE CHRIVI
  2C60 LATIN :CAPITAL LETTER L WITH DOUBLE BAR;SMALL LETTER L WITH DOUBLE BAR
  2C62 LATIN CAPITAL LETTER :L WITH MIDDLE TILDE;P WITH STROKE;R WITH TAIL
  2C65 LATIN SMALL LETTER :A WITH STROKE;T WITH DIAGONAL STROKE
  2C67 LATIN :CAPITAL LETTER H WITH DESCENDER;SMALL LETTER H WITH DESCENDER;CAPITAL LETTER K WITH DESCENDER
  2C6A LATIN :SMALL LETTER K WITH DESCENDER;CAPITAL LETTER Z WITH DESCENDER;SMALL LETTER Z WITH DESCENDER
  2C6D LATIN CAPITAL LETTER :ALPHA;M WITH HOOK;TURNED A;TURNED ALPHA
  2C71 :LATIN SMALL LETTER V WITH RIGHT HOOK
  2C72 LATIN :CAPITAL LETTER W WITH HOOK;SMALL LETTER W WITH HOOK;SMALL LETTER V WITH CURL;CAPITAL LETTER HALF H
  2C76 LATIN SMALL LETTER :HALF H;TAILLESS PHI;E WITH NOTCH;TURNED R WITH TAIL;O WITH LOW RING INSIDE
  2C7B :LATIN LETTER SMALL CAPITAL TURNED E;LATIN SUBSCRIPT SMALL LETTER J;MODIFIER LETTER CAPITAL V
  2C7E LATIN CAPITAL LETTER :S WITH SWASH TAIL;Z WITH SWASH TAIL
  2C80 COPTIC :CAPITAL LETTER ALFA;SMALL LETTER ALFA;CAPITAL LETTER VIDA;SMALL LETTER VIDA
  2C84 COPTIC :CAPITAL LETTER GAMMA;SMALL LETTER GAMMA;CAPITAL LETTER DALDA;SMALL LETTER DALDA;CAPITAL LETTER EIE
  2C89 COPTIC :SMALL LETTER EIE;CAPITAL LETTER SOU;SMALL LETTER SOU;CAPITAL LETTER ZATA;SMALL LETTER ZATA
  2C8E COPTIC :CAPITAL LETTER HATE;SMALL LETTER HATE;CAPITAL LETTER THETHE;SMALL LETTER THETHE;CAPITAL LETTER IAUDA
  2C93 COPTIC :SMALL LETTER IAUDA;CAPITAL LETTER KAPA;SMALL LETTER KAPA;CAPITAL LETTER LAULA;SMALL LETTER LAULA
  2C98 COPTIC :CAPITAL LETTER MI;SMALL LETTER MI;CAPITAL LETTER NI;SMALL LETTER NI;CAPITAL LETTER KSI
  2C9D COPTIC :SMALL LETTER KSI;CAPITAL LETTER O;SMALL LETTER O;CAPITAL LETTER PI;SMALL LETTER PI;CAPITAL LETTER RO
  2CA3 COPTIC :SMALL LETTER RO;CAPITAL LETTER SIMA;SMALL LETTER SIMA;CAPITAL LETTER TAU;SMALL LETTER TAU
  2CA8 COPTIC :CAPITAL LETTER UA;SMALL LETTER UA;CAPITAL LETTER FI;SMALL LETTER FI;CAPITAL LETTER KHI;SMALL LETTER KHI
  2CAE COPTIC :CAPITAL LETTER PSI;SMALL LETTER PSI;CAPITAL LETTER OOU;SMALL LETTER OOU;CAPITAL LETTER DIALECT-P ALEF
  2CB3 COPTIC :SMALL LETTER DIALECT-P ALEF;CAPITAL LETTER OLD COPTIC AIN;SMALL LETTER OLD COPTIC AIN
  2CB6 COPTIC :CAPITAL LETTER CRYPTOGRAMMIC EIE;SMALL LETTER CRYPTOGRAMMIC EIE;CAPITAL LETTER DIALECT-P KAPA
  2CB9 COPTIC :SMALL LETTER DIALECT-P KAPA;CAPITAL LETTER DIALECT-P NI;SMALL LETTER DIALECT-P NI
  2CBC COPTIC :CAPITAL LETTER CRYPTOGRAMMIC NI;SMALL LETTER CRYPTOGRAMMIC NI;CAPITAL LETTER OLD COPTIC OOU
  2CBF COPTIC :SMALL LETTER OLD COPTIC OOU;CAPITAL LETTER SAMPI;SMALL LETTER SAMPI;CAPITAL LETTER CROSSED SHEI
  2CC3 COPTIC :SMALL LETTER CROSSED SHEI;CAPITAL LETTER OLD COPTIC SHEI;SMALL LETTER OLD COPTIC SHEI
  2CC6 COPTIC :CAPITAL LETTER OLD COPTIC ESH;SMALL LETTER OLD COPTIC ESH;CAPITAL LETTER AKHMIMIC KHEI
  2CC9 COPTIC :SMALL LETTER AKHMIMIC KHEI;CAPITAL LETTER DIALECT-P HORI;SMALL LETTER DIALECT-P HORI
  2CCC COPTIC :CAPITAL LETTER OLD COPTIC HORI;SMALL LETTER OLD COPTIC HORI;CAPITAL LETTER OLD COPTIC HA
  2CCF COPTIC :SMALL LETTER OLD COPTIC HA;CAPITAL LETTER L-SHAPED HA;SMALL LETTER L-SHAPED HA
  2CD2 COPTIC :CAPITAL LETTER OLD COPTIC HEI;SMALL LETTER OLD COPTIC HEI;CAPITAL LETTER OLD COPTIC HAT
  2CD5 COPTIC :SMALL LETTER OLD COPTIC HAT;CAPITAL LETTER OLD COPTIC GANGIA;SMALL LETTER OLD COPTIC GANGIA
  2CD8 COPTIC :CAPITAL LETTER OLD COPTIC DJA;SMALL LETTER OLD COPTIC DJA;CAPITAL LETTER OLD COPTIC SHIMA
  2CDB COPTIC :SMALL LETTER OLD COPTIC SHIMA;CAPITAL LETTER OLD NUBIAN SHIMA;SMALL LETTER OLD NUBIAN SHIMA
  2CDE COPTIC :CAPITAL LETTER OLD NUBIAN NGI;SMALL LETTER OLD NUBIAN NGI;CAPITAL LETTER OLD NUBIAN NYI
  2CE1 COPTIC :SMALL LETTER OLD NUBIAN NYI;CAPITAL LETTER OLD NUBIAN WAU;SMALL LETTER OLD NUBIAN WAU
  2CE4 COPTIC SYMBOL :KAI;MI RO;PI RO;STAUROS;TAU RO;KHI RO;SHIMA SIMA
  2CEB :COPTIC CAPITAL LETTER CRYPTOGRAMMIC SHEI
  2CEC COPTIC :SMALL LETTER CRYPTOGRAMMIC SHEI;CAPITAL LETTER CRYPTOGRAMMIC GANGIA;SMALL LETTER CRYPTOGRAMMIC GANGIA
  2CEF COPTIC COMBINING :NI ABOVE;SPIRITUS ASPER;SPIRITUS LENIS
  2CF2 COPTIC :CAPITAL LETTER BOHAIRIC KHEI;SMALL LETTER BOHAIRIC KHEI
  2CF9 COPTIC OLD NUBIAN :FULL STOP;DIRECT QUESTION MARK;INDIRECT QUESTION MARK;VERSE DIVIDER
  2CFD COPTIC :FRACTION ONE HALF;FULL STOP;MORPHOLOGICAL DIVIDER
  2D00 GEORGIAN SMALL LETTER :AN;BAN;GAN;DON;EN;VIN;ZEN;TAN;IN;KAN;LAS;MAN;NAR;ON;PAR;ZHAR;RAE
  2D11 GEORGIAN SMALL LETTER :SAN;TAR;UN;PHAR;KHAR;GHAN;QAR;SHIN;CHIN;CAN;JIL;CIL;CHAR;XAN;JHAN;HAE;HE;HIE;WE;HAR;HOE
  2D27 :GEORGIAN SMALL LETTER YN
  2D2D :GEORGIAN SMALL LETTER AEN
  2D30 TIFINAGH LETTER :YA;YAB;YABH;YAG;YAGHH;BERBER ACADEMY YAJ;YAJ;YAD;YADH;YADD;YADDH;YEY;YAF;YAK;TUAREG YAK
  2D3F TIFINAGH LETTER :YAKHH;YAH;BERBER ACADEMY YAH;TUAREG YAH;YAHH;YAA;YAKH;TUAREG YAKH;YAQ;TUAREG YAQ;YI;YAZH
  2D4B TIFINAGH LETTER :AHAGGAR YAZH;TUAREG YAZH;YAL;YAM;YAN;TUAREG YAGN;TUAREG YANG;YAP;YU;YAR;YARR;YAGH;TUAREG YAGH
  2D58 TIFINAGH LETTER :AYER YAGH;YAS;YASS;YASH;YAT;YATH;YACH;YATT;YAV;YAW;YAY;YAZ;TAWELLEMET YAZ;YAZZ;YE;YO
  2D6F TIFINAGH :MODIFIER LETTER LABIALIZATION MARK;SEPARATOR MARK
  2D7F :TIFINAGH CONSONANT JOINER
  2D80 ETHIOPIC SYLLABLE :LOA;MOA;ROA;SOA;SHOA
  2D85 ETHIOPIC SYLLABLE :BOA;TOA;COA;NOA;NYOA;GLOTTAL OA;ZOA;DOA;DDOA;JOA;THOA;CHOA;PHOA;POA;GGWA;GGWI;GGWEE;GGWE
  2DA0 ETHIOPIC SYLLABLE :SSA;SSU;SSI;SSAA;SSEE;SSE;SSO
  2DA8 ETHIOPIC SYLLABLE :CCA;CCU;CCI;CCAA;CCEE;CCE;CCO
  2DB0 ETHIOPIC SYLLABLE :ZZA;ZZU;ZZI;ZZAA;ZZEE;ZZE;ZZO
  2DB8 ETHIOPIC SYLLABLE :CCHA;CCHU;CCHI;CCHAA;CCHEE;CCHE;CCHO
  2DC0 ETHIOPIC SYLLABLE :QYA;QYU;QYI;QYAA;QYEE;QYE;QYO
  2DC8 ETHIOPIC SYLLABLE :KYA;KYU;KYI;KYAA;KYEE;KYE;KYO
  2DD0 ETHIOPIC SYLLABLE :XYA;XYU;XYI;XYAA;XYEE;XYE;XYO
  2DD8 ETHIOPIC SYLLABLE :GYA;GYU;GYI;GYAA;GYEE;GYE;GYO
  2DE0 COMBINING CYRILLIC LETTER :BE;VE;GHE;DE;ZHE;ZE;KA;EL;EM;EN;O;PE;ER;ES;TE;HA;TSE;CHE;SHA;SHCHA;FITA
  2DF5 COMBINING CYRILLIC LETTER :ES-TE;A;IE;DJERV;MONOGRAPH UK;YAT;YU;IOTIFIED A;LITTLE YUS;BIG YUS;IOTIFIED BIG YUS
  2E00 RIGHT ANGLE :SUBSTITUTION MARKER;DOTTED SUBSTITUTION MARKER
  2E02 :LEFT SUBSTITUTION BRACKET;RIGHT SUBSTITUTION BRACKET;LEFT DOTTED SUBSTITUTION BRACKET
  2E05 :RIGHT DOTTED SUBSTITUTION BRACKET;RAISED INTERPOLATION MARKER;RAISED DOTTED INTERPOLATION MARKER
  2E08 :DOTTED TRANSPOSITION MARKER;LEFT TRANSPOSITION BRACKET;RIGHT TRANSPOSITION BRACKET
  2E0B :RAISED SQUARE;LEFT RAISED OMISSION BRACKET;RIGHT RAISED OMISSION BRACKET;EDITORIAL CORONIS
  2E0F :PARAGRAPHOS;FORKED PARAGRAPHOS;REVERSED FORKED PARAGRAPHOS;HYPODIASTOLE;DOTTED OBELOS;DOWNWARDS ANCORA
  2E15 :UPWARDS ANCORA;DOTTED RIGHT-POINTING ANGLE;DOUBLE OBLIQUE HYPHEN;INVERTED INTERROBANG;PALM BRANCH
  2E1A :HYPHEN WITH DIAERESIS;TILDE WITH RING ABOVE;LEFT LOW PARAPHRASE BRACKET;RIGHT LOW PARAPHRASE BRACKET
  2E1E TILDE WITH DOT :ABOVE;BELOW
  2E20 :LEFT VERTICAL BAR WITH QUILL;RIGHT VERTICAL BAR WITH QUILL;TOP LEFT HALF BRACKET;TOP RIGHT HALF BRACKET
  2E24 BOTTOM :LEFT HALF BRACKET;RIGHT HALF BRACKET
  2E26 :LEFT SIDEWAYS U BRACKET;RIGHT SIDEWAYS U BRACKET;LEFT DOUBLE PARENTHESIS;RIGHT DOUBLE PARENTHESIS
  2E2A :TWO DOTS OVER ONE DOT PUNCTUATION;ONE DOT OVER TWO DOTS PUNCTUATION;SQUARED FOUR DOT PUNCTUATION
  2E2D :FIVE DOT MARK;REVERSED QUESTION MARK;VERTICAL TILDE;RING POINT;WORD SEPARATOR MIDDLE DOT;TURNED COMMA
  2E33 RAISED :DOT;COMMA
  2E35 :TURNED SEMICOLON;DAGGER WITH LEFT GUARD;DAGGER WITH RIGHT GUARD;TURNED DAGGER;TOP HALF SECTION SIGN
  2E3A :TWO-EM DASH;THREE-EM DASH;STENOGRAPHIC FULL STOP;VERTICAL SIX DOTS;WIGGLY VERTICAL LINE;CAPITULUM
  2E40 :DOUBLE HYPHEN;REVERSED COMMA;DOUBLE LOW-REVERSED-9 QUOTATION MARK;DASH WITH LEFT UPTURN;DOUBLE SUSPENSION MARK
  2E45 INVERTED LOW :KAVYKA;KAVYKA WITH KAVYKA ABOVE
  2E47 :LOW KAVYKA;LOW KAVYKA WITH DOT;DOUBLE STACKED COMMA
  2E4A :DOTTED SOLIDUS;TRIPLE DAGGER;MEDIEVAL COMMA;PARAGRAPHUS MARK;PUNCTUS ELEVATUS MARK;CORNISH VERSE DIVIDER
  2E50 CROSS PATTY WITH :RIGHT CROSSBAR;LEFT CROSSBAR
  2E52 :TIRONIAN SIGN CAPITAL ET
  2E53 MEDIEVAL :EXCLAMATION MARK;QUESTION MARK
  2E55 :LEFT SQUARE BRACKET WITH STROKE;RIGHT SQUARE BRACKET WITH STROKE
  2E57 :LEFT SQUARE BRACKET WITH DOUBLE STROKE;RIGHT SQUARE BRACKET WITH DOUBLE STROKE
  2E59 TOP HALF :LEFT PARENTHESIS;RIGHT PARENTHESIS
  2E5B BOTTOM HALF :LEFT PARENTHESIS;RIGHT PARENTHESIS
  2E5D :OBLIQUE HYPHEN
  2E80 CJK RADICAL :REPEAT;CLIFF;SECOND ONE;SECOND TWO
  2E84 CJK RADICAL :SECOND THREE;PERSON;BOX;TABLE;KNIFE ONE;KNIFE TWO;DIVINATION;SEAL;SMALL ONE;SMALL TWO;LAME ONE
  2E8F CJK RADICAL :LAME TWO;LAME THREE;LAME FOUR;SNAKE;THREAD;SNOUT ONE;SNOUT TWO;HEART ONE;HEART TWO;HAND;RAP
  2E9B CJK RADICAL :CHOKE;SUN;MOON;DEATH
  2E9F CJK RADICAL :MOTHER;CIVILIAN;WATER ONE;WATER TWO;FIRE;PAW ONE;PAW TWO;SIMPLIFIED HALF TREE TRUNK;COW;DOG;JADE
  2EAA CJK RADICAL :BOLT OF CLOTH;EYE;SPIRIT ONE;SPIRIT TWO;BAMBOO;SILK;C-SIMPLIFIED SILK;NET ONE;NET TWO;NET THREE
  2EB4 CJK RADICAL :NET FOUR;MESH;SHEEP;RAM;EWE;OLD;BRUSH ONE;BRUSH TWO;MEAT;MORTAR;GRASS ONE;GRASS TWO;GRASS THREE
  2EC1 CJK RADICAL :TIGER;CLOTHES;WEST ONE;WEST TWO;C-SIMPLIFIED SEE;SIMPLIFIED HORN;HORN;C-SIMPLIFIED SPEECH
  2EC9 CJK RADICAL :C-SIMPLIFIED SHELL;FOOT;C-SIMPLIFIED CART;SIMPLIFIED WALK;WALK ONE;WALK TWO;CITY;C-SIMPLIFIED GOLD
  2ED1 CJK RADICAL :LONG ONE;LONG TWO;C-SIMPLIFIED LONG;C-SIMPLIFIED GATE;MOUND ONE;MOUND TWO;RAIN;BLUE
  2ED9 CJK RADICAL C-SIMPLIFIED :TANNED LEATHER;LEAF;WIND;FLY
  2EDD CJK RADICAL :EAT ONE;EAT TWO;EAT THREE;C-SIMPLIFIED EAT;HEAD;C-SIMPLIFIED HORSE;BONE;GHOST
  2EE5 CJK RADICAL C-SIMPLIFIED :FISH;BIRD;SALT
  2EE8 CJK RADICAL SIMPLIFIED :WHEAT;YELLOW
  2EEA CJK RADICAL :C-SIMPLIFIED FROG;J-SIMPLIFIED EVEN;C-SIMPLIFIED EVEN;J-SIMPLIFIED TOOTH;C-SIMPLIFIED TOOTH
  2EEF CJK RADICAL :J-SIMPLIFIED DRAGON;C-SIMPLIFIED DRAGON;TURTLE;J-SIMPLIFIED TURTLE;C-SIMPLIFIED TURTLE
  2F00 KANGXI RADICAL :ONE;LINE;DOT;SLASH;SECOND;HOOK;TWO;LID;MAN;LEGS;ENTER
  2F0B KANGXI RADICAL :EIGHT;DOWN BOX;COVER;ICE;TABLE;OPEN BOX;KNIFE;POWER;WRAP;SPOON;RIGHT OPEN BOX;HIDING ENCLOSURE
  2F17 KANGXI RADICAL :TEN;DIVINATION;SEAL;CLIFF;PRIVATE;AGAIN;MOUTH;ENCLOSURE;EARTH;SCHOLAR;GO;GO SLOWLY
  2F23 KANGXI RADICAL :EVENING;BIG;WOMAN;CHILD;ROOF;INCH;SMALL;LAME;CORPSE;SPROUT;MOUNTAIN;RIVER;WORK;ONESELF;TURBAN
  2F32 KANGXI RADICAL :DRY;SHORT THREAD;DOTTED CLIFF;LONG STRIDE;TWO HANDS;SHOOT;BOW;SNOUT;BRISTLE;STEP;HEART;HALBERD
  2F3E KANGXI RADICAL :DOOR;HAND;BRANCH;RAP;SCRIPT;DIPPER;AXE;SQUARE;NOT;SUN;SAY;MOON;TREE;LACK;STOP;DEATH;WEAPON
  2F4F KANGXI RADICAL :DO NOT;COMPARE;FUR;CLAN;STEAM;WATER;FIRE;CLAW;FATHER;DOUBLE X;HALF TREE TRUNK;SLICE;FANG;COW
  2F5D KANGXI RADICAL :DOG;PROFOUND;JADE;MELON;TILE;SWEET;LIFE;USE;FIELD;BOLT OF CLOTH;SICKNESS;DOTTED TENT;WHITE;SKIN
  2F6B KANGXI RADICAL :DISH;EYE;SPEAR;ARROW;STONE;SPIRIT;TRACK;GRAIN;CAVE;STAND;BAMBOO;RICE;SILK;JAR;NET;SHEEP;FEATHER
  2F7C KANGXI RADICAL :OLD;AND;PLOW;EAR;BRUSH;MEAT;MINISTER;SELF;ARRIVE;MORTAR;TONGUE;OPPOSE;BOAT;STOPPING;COLOR;GRASS
  2F8C KANGXI RADICAL :TIGER;INSECT;BLOOD;WALK ENCLOSURE;CLOTHES;WEST;SEE;HORN;SPEECH;VALLEY;BEAN;PIG;BADGER;SHELL;RED
  2F9B KANGXI RADICAL :RUN;FOOT;BODY;CART;BITTER;MORNING;WALK;CITY;WINE;DISTINGUISH;VILLAGE;GOLD;LONG;GATE;MOUND;SLAVE
  2FAB KANGXI RADICAL :SHORT TAILED BIRD;RAIN;BLUE;WRONG;FACE;LEATHER;TANNED LEATHER;LEEK;SOUND;LEAF;WIND;FLY;EAT;HEAD
  2FB9 KANGXI RADICAL :FRAGRANT;HORSE;BONE;TALL;HAIR;FIGHT;SACRIFICIAL WINE;CAULDRON;GHOST;FISH;BIRD;SALT;DEER;WHEAT
  2FC7 KANGXI RADICAL :HEMP;YELLOW;MILLET;BLACK;EMBROIDERY;FROG;TRIPOD;DRUM;RAT;NOSE;EVEN;TOOTH;DRAGON;TURTLE;FLUTE
  2FF0 IDEOGRAPHIC DESCRIPTION CHARACTER :LEFT TO RIGHT;ABOVE TO BELOW
  2FF2 IDEOGRAPHIC DESCRIPTION CHARACTER :LEFT TO MIDDLE AND RIGHT;ABOVE TO MIDDLE AND BELOW;FULL SURROUND
  2FF5 IDEOGRAPHIC DESCRIPTION CHARACTER SURROUND FROM :ABOVE;BELOW;LEFT;UPPER LEFT;UPPER RIGHT;LOWER LEFT
  2FFB :IDEOGRAPHIC DESCRIPTION CHARACTER OVERLAID
  3000 IDEOGRAPHIC :SPACE;COMMA;FULL STOP
  3003 :DITTO MARK;JAPANESE INDUSTRIAL STANDARD SYMBOL
  3005 IDEOGRAPHIC :ITERATION MARK;CLOSING MARK;NUMBER ZERO
  3008 :LEFT ANGLE BRACKET;RIGHT ANGLE BRACKET;LEFT DOUBLE ANGLE BRACKET
  300B :RIGHT DOUBLE ANGLE BRACKET;LEFT CORNER BRACKET;RIGHT CORNER BRACKET;LEFT WHITE CORNER BRACKET
  300F :RIGHT WHITE CORNER BRACKET;LEFT BLACK LENTICULAR BRACKET;RIGHT BLACK LENTICULAR BRACKET
  3012 :POSTAL MARK;GETA MARK;LEFT TORTOISE SHELL BRACKET;RIGHT TORTOISE SHELL BRACKET;LEFT WHITE LENTICULAR BRACKET
  3017 :RIGHT WHITE LENTICULAR BRACKET;LEFT WHITE TORTOISE SHELL BRACKET;RIGHT WHITE TORTOISE SHELL BRACKET
  301A :LEFT WHITE SQUARE BRACKET;RIGHT WHITE SQUARE BRACKET;WAVE DASH;REVERSED DOUBLE PRIME QUOTATION MARK
  301E :DOUBLE PRIME QUOTATION MARK;LOW DOUBLE PRIME QUOTATION MARK;POSTAL MARK FACE
  3021 HANGZHOU NUMERAL :ONE;TWO;THREE;FOUR;FIVE;SIX;SEVEN;EIGHT;NINE
  302A IDEOGRAPHIC :LEVEL TONE MARK;RISING TONE MARK;DEPARTING TONE MARK;ENTERING TONE MARK
  302E :HANGUL SINGLE DOT TONE MARK;HANGUL DOUBLE DOT TONE MARK;WAVY DASH
  3031 VERTICAL KANA REPEAT :MARK;WITH VOICED SOUND MARK;MARK UPPER HALF;WITH VOICED SOUND MARK UPPER HALF
  3035 :VERTICAL KANA REPEAT MARK LOWER HALF;CIRCLED POSTAL MARK;IDEOGRAPHIC TELEGRAPH LINE FEED SEPARATOR SYMBOL
  3038 HANGZHOU NUMERAL :TEN;TWENTY;THIRTY
  303B :VERTICAL IDEOGRAPHIC ITERATION MARK;MASU MARK;PART ALTERNATION MARK
  303E IDEOGRAPHIC :VARIATION INDICATOR;HALF FILL SPACE
  3041 HIRAGANA LETTER :SMALL A;A;SMALL I;I;SMALL U;U;SMALL E
  3048 HIRAGANA LETTER :E;SMALL O;O;KA;GA;KI;GI;KU;GU;KE;GE;KO;GO;SA;ZA;SI;ZI;SU;ZU;SE;ZE;SO;ZO;TA;DA;TI;DI;SMALL TU
  3064 HIRAGANA LETTER :TU;DU;TE;DE;TO;DO;NA;NI;NU;NE;NO;HA;BA;PA;HI;BI;PI;HU;BU;PU;HE;BE;PE;HO;BO;PO;MA;MI;MU;ME;MO
  3083 HIRAGANA LETTER :SMALL YA;YA;SMALL YU;YU;SMALL YO;YO;RA;RI;RU;RE;RO;SMALL WA;WA;WI;WE;WO;N;VU;SMALL KA;SMALL KE
  3099 COMBINING KATAKANA-HIRAGANA :VOICED SOUND MARK;SEMI-VOICED SOUND MARK
  309B KATAKANA-HIRAGANA :VOICED SOUND MARK;SEMI-VOICED SOUND MARK
  309D HIRAGANA :ITERATION MARK;VOICED ITERATION MARK;DIGRAPH YORI
  30A0 :KATAKANA-HIRAGANA DOUBLE HYPHEN
  30A1 KATAKANA LETTER :SMALL A;A;SMALL I;I;SMALL U;U;SMALL E;E;SMALL O
  30AA KATAKANA LETTER :O;KA;GA;KI;GI;KU;GU;KE;GE;KO;GO;SA;ZA;SI;ZI;SU;ZU;SE;ZE;SO;ZO;TA;DA;TI;DI;SMALL TU;TU;DU;TE;DE
  30C8 KATAKANA LETTER :TO;DO;NA;NI;NU;NE;NO;HA;BA;PA;HI;BI;PI;HU;BU;PU;HE;BE;PE;HO;BO;PO;MA;MI;MU;ME;MO;SMALL YA;YA
  30E5 KATAKANA LETTER :SMALL YU;YU;SMALL YO;YO;RA;RI;RU;RE;RO;SMALL WA;WA;WI;WE;WO;N;VU;SMALL KA;SMALL KE;VA;VI;VE;VO
  30FB :KATAKANA MIDDLE DOT;KATAKANA-HIRAGANA PROLONGED SOUND MARK
  30FD KATAKANA :ITERATION MARK;VOICED ITERATION MARK;DIGRAPH KOTO
  3105 BOPOMOFO LETTER :B;P;M;F;D;T;N;L;G;K;H;J;Q
  3112 BOPOMOFO LETTER :X;ZH;CH;SH;R;Z;C;S;A;O;E;EH;AI;EI;AU;OU;AN;EN;ANG;ENG;ER;I;U;IU;V;NG;GN;IH;O WITH DOT ABOVE;NN
  3131 HANGUL LETTER :KIYEOK;SSANGKIYEOK;KIYEOK-SIOS;NIEUN;NIEUN-CIEUC;NIEUN-HIEUH;TIKEUT;SSANGTIKEUT;RIEUL
  313A HANGUL LETTER RIEUL-:KIYEOK;MIEUM;PIEUP;SIOS;THIEUTH;PHIEUPH;HIEUH
  3141 HANGUL LETTER :MIEUM;PIEUP;SSANGPIEUP;PIEUP-SIOS;SIOS;SSANGSIOS;IEUNG;CIEUC;SSANGCIEUC;CHIEUCH
  314B HANGUL LETTER :KHIEUKH;THIEUTH;PHIEUPH;HIEUH;A;AE;YA;YAE;EO;E;YEO;YE;O;WA;WAE;OE;YO;U;WEO;WE;WI;YU;EU;YI;I
  3164 HANGUL :FILLER;LETTER SSANGNIEUN
  3166 HANGUL LETTER NIEUN-:TIKEUT;SIOS;PANSIOS
  3169 HANGUL LETTER RIEUL-:KIYEOK-SIOS;TIKEUT;PIEUP-SIOS;PANSIOS;YEORINHIEUH
  316E HANGUL LETTER :MIEUM-PIEUP;MIEUM-SIOS;MIEUM-PANSIOS;KAPYEOUNMIEUM
  3172 HANGUL LETTER PIEUP-:KIYEOK;TIKEUT;SIOS-KIYEOK;SIOS-TIKEUT;CIEUC;THIEUTH
  3178 HANGUL LETTER :KAPYEOUNPIEUP;KAPYEOUNSSANGPIEUP;SIOS-KIYEOK;SIOS-NIEUN
  317C HANGUL LETTER :SIOS-TIKEUT;SIOS-PIEUP;SIOS-CIEUC;PANSIOS;SSANGIEUNG;YESIEUNG;YESIEUNG-SIOS;YESIEUNG-PANSIOS
  3184 HANGUL LETTER :KAPYEOUNPHIEUPH;SSANGHIEUH;YEORINHIEUH;YO-YA;YO-YAE;YO-I;YU-YEO;YU-YE;YU-I;ARAEA;ARAEAE
  3190 :IDEOGRAPHIC ANNOTATION LINKING MARK
  3191 IDEOGRAPHIC ANNOTATION :REVERSE MARK;ONE MARK;TWO MARK;THREE MARK;FOUR MARK;TOP MARK;MIDDLE MARK;BOTTOM MARK
  3199 IDEOGRAPHIC ANNOTATION :FIRST MARK;SECOND MARK;THIRD MARK;FOURTH MARK;HEAVEN MARK;EARTH MARK;MAN MARK
  31A0 BOPOMOFO LETTER :BU;ZI;JI;GU;EE;ENN;OO;ONN;IR;ANN;INN;UNN;IM;NGG;AINN;AUNN;AM;OM;ONG;INNN
  31B4 BOPOMOFO FINAL LETTER :P;T;K;H
  31B8 BOPOMOFO :LETTER GH;LETTER LH;LETTER ZY;FINAL LETTER G
  31BC BOPOMOFO LETTER :GW;KW;OE;AH
  31C0 CJK STROKE :T;WG;XG;BXG;SW;HZZ;HZG;HP
  31C8 CJK STROKE :HZWG;SZWG;HZT;HZZP;HPWG;HZW;HZZZ;N;H;S;P;SP;D;HZ;HG;SZ;SWZ;ST;SG;PD;PZ;TN;SZZ;SWG;HXWG;HZZZG;PG;Q
  31F0 KATAKANA LETTER SMALL :KU;SI;SU;TO;NU;HA;HI;HU;HE;HO;MU;RA;RI;RU;RE;RO
  3200 PARENTHESIZED HANGUL :KIYEOK;NIEUN;TIKEUT;RIEUL;MIEUM;PIEUP;SIOS;IEUNG
  3208 PARENTHESIZED HANGUL :CIEUC;CHIEUCH;KHIEUKH;THIEUTH;PHIEUPH;HIEUH;KIYEOK A;NIEUN A;TIKEUT A;RIEUL A;MIEUM A
  3213 PARENTHESIZED HANGUL :PIEUP A;SIOS A;IEUNG A;CIEUC A;CHIEUCH A;KHIEUKH A;THIEUTH A;PHIEUPH A;HIEUH A;CIEUC U
  321D PARENTHESIZED KOREAN CHARACTER :OJEON;O HU
  3220 PARENTHESIZED IDEOGRAPH :ONE;TWO;THREE;FOUR;FIVE;SIX;SEVEN;EIGHT;NINE;TEN;MOON;FIRE;WATER
  322D PARENTHESIZED IDEOGRAPH :WOOD;METAL;EARTH;SUN;STOCK;HAVE;SOCIETY;NAME;SPECIAL;FINANCIAL;CONGRATULATION;LABOR
  3239 PARENTHESIZED IDEOGRAPH :REPRESENT;CALL;STUDY;SUPERVISE;ENTERPRISE;RESOURCE;ALLIANCE;FESTIVAL;REST;SELF;REACH
  3244 CIRCLED IDEOGRAPH :QUESTION;KINDERGARTEN;SCHOOL;KOTO
  3248 CIRCLED NUMBER :TEN ON BLACK SQUARE;TWENTY ON BLACK SQUARE;THIRTY ON BLACK SQUARE;FORTY ON BLACK SQUARE
  324C CIRCLED NUMBER :FIFTY ON BLACK SQUARE;SIXTY ON BLACK SQUARE;SEVENTY ON BLACK SQUARE;EIGHTY ON BLACK SQUARE
  3250 :PARTNERSHIP SIGN
  3251 CIRCLED NUMBER TWENTY :ONE;TWO;THREE;FOUR;FIVE;SIX;SEVEN;EIGHT;NINE
  325A :CIRCLED NUMBER THIRTY
  325B CIRCLED NUMBER THIRTY :ONE;TWO;THREE;FOUR;FIVE
  3260 CIRCLED HANGUL :KIYEOK;NIEUN;TIKEUT;RIEUL
  3264 CIRCLED HANGUL :MIEUM;PIEUP;SIOS;IEUNG;CIEUC;CHIEUCH;KHIEUKH;THIEUTH;PHIEUPH;HIEUH;KIYEOK A;NIEUN A;TIKEUT A
  3271 CIRCLED HANGUL :RIEUL A;MIEUM A;PIEUP A;SIOS A;IEUNG A;CIEUC A;CHIEUCH A;KHIEUKH A;THIEUTH A;PHIEUPH A;HIEUH A
  327C CIRCLED KOREAN CHARACTER :CHAMKO;JUEUI
  327E :CIRCLED HANGUL IEUNG U;KOREAN STANDARD SYMBOL
  3280 CIRCLED IDEOGRAPH :ONE;TWO;THREE;FOUR;FIVE;SIX;SEVEN;EIGHT;NINE;TEN;MOON
  328B CIRCLED IDEOGRAPH :FIRE;WATER;WOOD;METAL;EARTH;SUN;STOCK;HAVE;SOCIETY;NAME;SPECIAL;FINANCIAL;CONGRATULATION
  3298 CIRCLED IDEOGRAPH :LABOR;SECRET;MALE;FEMALE;SUITABLE;EXCELLENT;PRINT;ATTENTION;ITEM;REST;COPY;CORRECT;HIGH
  32A5 CIRCLED IDEOGRAPH :CENTRE;LOW;LEFT;RIGHT;MEDICINE;RELIGION;STUDY;SUPERVISE;ENTERPRISE;RESOURCE;ALLIANCE;NIGHT
  32B1 CIRCLED NUMBER :THIRTY SIX;THIRTY SEVEN;THIRTY EIGHT;THIRTY NINE;FORTY
  32B6 CIRCLED NUMBER FORTY :ONE;TWO;THREE;FOUR;FIVE;SIX;SEVEN;EIGHT;NINE
  32BF :CIRCLED NUMBER FIFTY;IDEOGRAPHIC TELEGRAPH SYMBOL FOR JANUARY
  32C1 IDEOGRAPHIC TELEGRAPH SYMBOL FOR :FEBRUARY;MARCH;APRIL;MAY;JUNE;JULY;AUGUST;SEPTEMBER;OCTOBER;NOVEMBER;DECEMBER
  32CC SQUARE :HG;ERG;EV
  32CF :LIMITED LIABILITY SIGN
  32D0 CIRCLED KATAKANA :A;I;U;E;O;KA;KI;KU;KE;KO;SA;SI;SU;SE;SO;TA
  32E0 CIRCLED KATAKANA :TI;TU;TE;TO;NA;NI;NU;NE;NO;HA;HI;HU;HE;HO;MA;MI;MU;ME;MO;YA;YU;YO;RA;RI;RU;RE;RO;WA;WI;WE;WO
  32FF SQUARE :ERA NAME REIWA;APAATO;ARUHUA;ANPEA;AARU;ININGU;INTI;UON;ESUKUUDO;EEKAA;ONSU;OOMU;KAIRI;KARATTO;KARORII
  330E SQUARE :GARON;GANMA;GIGA;GINII;KYURII;GIRUDAA;KIRO;KIROGURAMU;KIROMEETORU;KIROWATTO;GURAMU;GURAMUTON;KURUZEIRO
  331B SQUARE :KUROONE;KEESU;KORUNA;KOOPO;SAIKURU;SANTIIMU;SIRINGU;SENTI;SENTO;DAASU;DESI;DORU;TON;NANO;NOTTO;HAITU
  332B SQUARE :PAASENTO;PAATU;BAARERU;PIASUTORU;PIKURU;PIKO;BIRU;HUARADDO;HUIITO;BUSSYERU;HURAN;HEKUTAARU;PESO;PENIHI
  3339 SQUARE :HERUTU;PENSU;PEEZI;BEETA;POINTO;BORUTO;HON;PONDO;HOORU;HOON;MAIKURO;MAIRU;MAHHA;MARUKU;MANSYON;MIKURON
  3349 SQUARE :MIRI;MIRIBAARU;MEGA;MEGATON;MEETORU;YAADO;YAARU;YUAN;RITTORU;RIRA;RUPII;RUUBURU;REMU;RENTOGEN;WATTO
  3358 IDEOGRAPHIC TELEGRAPH SYMBOL FOR HOUR :ZERO;ONE;TWO;THREE;FOUR;FIVE;SIX;SEVEN;EIGHT;NINE;TEN;ELEVEN;TWELVE
  3365 IDEOGRAPHIC TELEGRAPH SYMBOL FOR HOUR :THIRTEEN;FOURTEEN;FIFTEEN;SIXTEEN;SEVENTEEN;EIGHTEEN;NINETEEN;TWENTY
  336D IDEOGRAPHIC TELEGRAPH SYMBOL FOR HOUR TWENTY-:ONE;TWO;THREE;FOUR
  3371 SQUARE :HPA;DA;AU;BAR;OV;PC;DM;DM SQUARED;DM CUBED;IU
  337B SQUARE ERA NAME :HEISEI;SYOUWA;TAISYOU;MEIZI
  337F SQUARE :CORPORATION;PA AMPS;NA;MU A;MA;KA;KB;MB;GB;CAL;KCAL;PF;NF;MU F;MU G;MG;KG;HZ
  3391 SQUARE :KHZ;MHZ;GHZ;THZ;MU L;ML;DL;KL;FM;NM;MU M;MM;CM;KM;MM SQUARED;CM SQUARED;M SQUARED;KM SQUARED;MM CUBED
  33A4 SQUARE :CM CUBED;M CUBED;KM CUBED;M OVER S;M OVER S SQUARED;PA;KPA;MPA;GPA;RAD;RAD OVER S;RAD OVER S SQUARED
  33B0 SQUARE :PS;NS;MU S;MS;PV;NV;MU V;MV;KV;MV MEGA;PW;NW;MU W;MW;KW;MW MEGA;K OHM;M OHM;AM;BQ;CC;CD;C OVER KG;CO
  33C8 SQUARE :DB;GY;HA;HP;IN;KK;KM CAPITAL;KT;LM;LN;LOG;LX;MB SMALL;MIL;MOL;PH;PM;PPM;PR;SR;SV;WB;V OVER M;A OVER M
  33E0 IDEOGRAPHIC TELEGRAPH SYMBOL FOR DAY :ONE;TWO;THREE;FOUR;FIVE;SIX;SEVEN;EIGHT;NINE;TEN;ELEVEN;TWELVE
  33EC IDEOGRAPHIC TELEGRAPH SYMBOL FOR DAY :THIRTEEN;FOURTEEN;FIFTEEN;SIXTEEN;SEVENTEEN;EIGHTEEN;NINETEEN;TWENTY
  33F4 IDEOGRAPHIC TELEGRAPH SYMBOL FOR DAY TWENTY-:ONE;TWO;THREE;FOUR;FIVE;SIX;SEVEN;EIGHT;NINE
  33FD IDEOGRAPHIC TELEGRAPH SYMBOL FOR DAY :THIRTY;THIRTY-ONE
  33FF :SQUARE GAL
  4DC0 HEXAGRAM FOR :THE CREATIVE HEAVEN;THE RECEPTIVE EARTH;DIFFICULTY AT THE BEGINNING
  4DC3 HEXAGRAM FOR :YOUTHFUL FOLLY;WAITING;CONFLICT;THE ARMY;HOLDING TOGETHER;SMALL TAMING;TREADING;PEACE
  4DCB HEXAGRAM FOR :STANDSTILL;FELLOWSHIP;GREAT POSSESSION;MODESTY;ENTHUSIASM;FOLLOWING;WORK ON THE DECAYED;APPROACH
  4DD3 HEXAGRAM FOR :CONTEMPLATION;BITING THROUGH;GRACE;SPLITTING APART;RETURN;INNOCENCE;GREAT TAMING;MOUTH CORNERS
  4DDB HEXAGRAM FOR :GREAT PREPONDERANCE;THE ABYSMAL WATER;THE CLINGING FIRE;INFLUENCE;DURATION;RETREAT;GREAT POWER
  4DE2 HEXAGRAM FOR :PROGRESS;DARKENING OF THE LIGHT;THE FAMILY;OPPOSITION;OBSTRUCTION;DELIVERANCE;DECREASE;INCREASE
  4DEA HEXAGRAM FOR :BREAKTHROUGH;COMING TO MEET;GATHERING TOGETHER;PUSHING UPWARD;OPPRESSION;THE WELL;REVOLUTION
  4DF1 HEXAGRAM FOR THE :CAULDRON;AROUSING THUNDER;KEEPING STILL MOUNTAIN
  4DF4 HEXAGRAM FOR :DEVELOPMENT;THE MARRYING MAIDEN;ABUNDANCE;THE WANDERER;THE GENTLE WIND;THE JOYOUS LAKE
  4DFA HEXAGRAM FOR :DISPERSION;LIMITATION;INNER TRUTH;SMALL PREPONDERANCE;AFTER COMPLETION;BEFORE COMPLETION
  A000 YI SYLLABLE :IT;IX;I;IP;IET;IEX;IE;IEP;AT;AX;A;AP;UOX;UO;UOP;OT
  A010 YI SYLLABLE :OX;O;OP;EX;E;WU;BIT;BIX;BI;BIP;BIET;BIEX;BIE;BIEP;BAT;BAX;BA;BAP;BUOX;BUO;BUOP;BOT;BOX;BO;BOP;BEX
  A02A YI SYLLABLE :BE;BEP;BUT;BUX;BU;BUP;BURX;BUR;BYT;BYX;BY;BYP;BYRX;BYR;PIT;PIX;PI;PIP;PIEX;PIE;PIEP;PAT;PAX;PA;PAP
  A043 YI SYLLABLE :PUOX;PUO;PUOP;POT;POX;PO;POP;PUT;PUX;PU;PUP;PURX;PUR;PYT;PYX;PY;PYP;PYRX;PYR;BBIT;BBIX;BBI;BBIP
  A05A YI SYLLABLE :BBIET;BBIEX;BBIE;BBIEP;BBAT;BBAX;BBA;BBAP;BBUOX;BBUO;BBUOP;BBOT;BBOX;BBO;BBOP;BBEX;BBE;BBEP;BBUT
  A06D YI SYLLABLE :BBUX;BBU;BBUP;BBURX;BBUR;BBYT;BBYX;BBY;BBYP;NBIT;NBIX;NBI;NBIP;NBIEX;NBIE;NBIEP;NBAT;NBAX;NBA;NBAP
  A081 YI SYLLABLE :NBOT;NBOX;NBO;NBOP;NBUT;NBUX;NBU;NBUP;NBURX;NBUR;NBYT;NBYX;NBY;NBYP;NBYRX;NBYR;HMIT;HMIX;HMI;HMIP
  A095 YI SYLLABLE :HMIEX;HMIE;HMIEP;HMAT;HMAX;HMA;HMAP;HMUOX;HMUO;HMUOP;HMOT;HMOX;HMO;HMOP;HMUT;HMUX;HMU;HMUP;HMURX
  A0A8 YI SYLLABLE :HMUR;HMYX;HMY;HMYP;HMYRX;HMYR;MIT;MIX;MI;MIP;MIEX;MIE;MIEP;MAT;MAX;MA;MAP;MUOT;MUOX;MUO;MUOP;MOT
  A0BE YI SYLLABLE :MOX;MO;MOP;MEX;ME;MUT;MUX;MU;MUP;MURX;MUR;MYT;MYX;MY;MYP;FIT;FIX;FI;FIP;FAT;FAX;FA;FAP;FOX;FO;FOP
  A0D8 YI SYLLABLE :FUT;FUX;FU;FUP;FURX;FUR;FYT;FYX;FY;FYP;VIT;VIX;VI;VIP;VIET;VIEX;VIE;VIEP;VAT;VAX;VA;VAP;VOT;VOX
  A0F0 YI SYLLABLE :VO;VOP;VEX;VEP;VUT;VUX;VU;VUP;VURX;VUR;VYT;VYX;VY;VYP;VYRX;VYR;DIT;DIX;DI;DIP;DIEX;DIE;DIEP;DAT
  A108 YI SYLLABLE :DAX;DA;DAP;DUOX;DUO;DOT;DOX;DO;DOP;DEX;DE;DEP;DUT;DUX;DU;DUP;DURX;DUR;TIT;TIX;TI;TIP;TIEX;TIE;TIEP
  A121 YI SYLLABLE :TAT;TAX;TA;TAP;TUOT;TUOX;TUO;TUOP;TOT;TOX;TO;TOP;TEX;TE;TEP;TUT;TUX;TU;TUP;TURX;TUR;DDIT;DDIX;DDI
  A139 YI SYLLABLE :DDIP;DDIEX;DDIE;DDIEP;DDAT;DDAX;DDA;DDAP;DDUOX;DDUO;DDUOP;DDOT;DDOX;DDO;DDOP;DDEX;DDE;DDEP;DDUT
  A14C YI SYLLABLE :DDUX;DDU;DDUP;DDURX;DDUR;NDIT;NDIX;NDI;NDIP;NDIEX;NDIE;NDAT;NDAX;NDA;NDAP;NDOT;NDOX;NDO;NDOP;NDEX
  A160 YI SYLLABLE :NDE;NDEP;NDUT;NDUX;NDU;NDUP;NDURX;NDUR;HNIT;HNIX;HNI;HNIP;HNIET;HNIEX;HNIE;HNIEP;HNAT;HNAX;HNA
  A173 YI SYLLABLE :HNAP;HNUOX;HNUO;HNOT;HNOX;HNOP;HNEX;HNE;HNEP;HNUT;NIT;NIX;NI;NIP;NIEX;NIE;NIEP;NAX;NA;NAP;NUOX;NUO
  A189 YI SYLLABLE :NUOP;NOT;NOX;NO;NOP;NEX;NE;NEP;NUT;NUX;NU;NUP;NURX;NUR;HLIT;HLIX;HLI;HLIP;HLIEX;HLIE;HLIEP;HLAT
  A19F YI SYLLABLE :HLAX;HLA;HLAP;HLUOX;HLUO;HLUOP;HLOX;HLO;HLOP;HLEX;HLE;HLEP;HLUT;HLUX;HLU;HLUP;HLURX;HLUR;HLYT;HLYX
  A1B3 YI SYLLABLE :HLY;HLYP;HLYRX;HLYR;LIT;LIX;LI;LIP;LIET;LIEX;LIE;LIEP;LAT;LAX;LA;LAP;LUOT;LUOX;LUO;LUOP;LOT;LOX;LO
  A1CA YI SYLLABLE :LOP;LEX;LE;LEP;LUT;LUX;LU;LUP;LURX;LUR;LYT;LYX;LY;LYP;LYRX;LYR;GIT;GIX;GI;GIP;GIET;GIEX;GIE;GIEP
  A1E2 YI SYLLABLE :GAT;GAX;GA;GAP;GUOT;GUOX;GUO;GUOP;GOT;GOX;GO;GOP;GET;GEX;GE;GEP;GUT;GUX;GU;GUP;GURX;GUR;KIT;KIX;KI
  A1FB YI SYLLABLE :KIP;KIEX;KIE;KIEP;KAT;KAX;KA;KAP;KUOX;KUO;KUOP;KOT;KOX;KO;KOP;KET;KEX;KE;KEP;KUT;KUX;KU;KUP;KURX
  A213 YI SYLLABLE :KUR;GGIT;GGIX;GGI;GGIEX;GGIE;GGIEP;GGAT;GGAX;GGA;GGAP;GGUOT;GGUOX;GGUO;GGUOP;GGOT;GGOX;GGO;GGOP
  A226 YI SYLLABLE :GGET;GGEX;GGE;GGEP;GGUT;GGUX;GGU;GGUP;GGURX;GGUR;MGIEX;MGIE;MGAT;MGAX;MGA;MGAP;MGUOX;MGUO;MGUOP
  A239 YI SYLLABLE :MGOT;MGOX;MGO;MGOP;MGEX;MGE;MGEP;MGUT;MGUX;MGU;MGUP;MGURX;MGUR;HXIT;HXIX;HXI;HXIP;HXIET;HXIEX;HXIE
  A24D YI SYLLABLE :HXIEP;HXAT;HXAX;HXA;HXAP;HXUOT;HXUOX;HXUO;HXUOP;HXOT;HXOX;HXO;HXOP;HXEX;HXE;HXEP;NGIEX;NGIE;NGIEP
  A260 YI SYLLABLE :NGAT;NGAX;NGA;NGAP;NGUOT;NGUOX;NGUO;NGOT;NGOX;NGO;NGOP;NGEX;NGE;NGEP;HIT;HIEX;HIE;HAT;HAX;HA;HAP
  A275 YI SYLLABLE :HUOT;HUOX;HUO;HUOP;HOT;HOX;HO;HOP;HEX;HE;HEP;WAT;WAX;WA;WAP;WUOX;WUO;WUOP;WOX;WO;WOP;WEX;WE;WEP
  A28D YI SYLLABLE :ZIT;ZIX;ZI;ZIP;ZIEX;ZIE;ZIEP;ZAT;ZAX;ZA;ZAP;ZUOX;ZUO;ZUOP;ZOT;ZOX;ZO;ZOP;ZEX;ZE;ZEP;ZUT;ZUX;ZU;ZUP
  A2A6 YI SYLLABLE :ZURX;ZUR;ZYT;ZYX;ZY;ZYP;ZYRX;ZYR;CIT;CIX;CI;CIP;CIET;CIEX;CIE;CIEP;CAT;CAX;CA;CAP;CUOX;CUO;CUOP
  A2BD YI SYLLABLE :COT;COX;CO;COP;CEX;CE;CEP;CUT;CUX;CU;CUP;CURX;CUR;CYT;CYX;CY;CYP;CYRX;CYR;ZZIT;ZZIX;ZZI;ZZIP;ZZIET
  A2D5 YI SYLLABLE :ZZIEX;ZZIE;ZZIEP;ZZAT;ZZAX;ZZA;ZZAP;ZZOX;ZZO;ZZOP;ZZEX;ZZE;ZZEP;ZZUX;ZZU;ZZUP;ZZURX;ZZUR;ZZYT;ZZYX
  A2E9 YI SYLLABLE :ZZY;ZZYP;ZZYRX;ZZYR;NZIT;NZIX;NZI;NZIP;NZIEX;NZIE;NZIEP;NZAT;NZAX;NZA;NZAP;NZUOX;NZUO;NZOX;NZOP
  A2FC YI SYLLABLE :NZEX;NZE;NZUX;NZU;NZUP;NZURX;NZUR;NZYT;NZYX;NZY;NZYP;NZYRX;NZYR;SIT;SIX;SI;SIP;SIEX;SIE;SIEP;SAT
  A311 YI SYLLABLE :SAX;SA;SAP;SUOX;SUO;SUOP;SOT;SOX;SO;SOP;SEX;SE;SEP;SUT;SUX;SU;SUP;SURX;SUR;SYT;SYX;SY;SYP;SYRX;SYR
  A32A YI SYLLABLE :SSIT;SSIX;SSI;SSIP;SSIEX;SSIE;SSIEP;SSAT;SSAX;SSA;SSAP;SSOT;SSOX;SSO;SSOP;SSEX;SSE;SSEP;SSUT;SSUX
  A33E YI SYLLABLE :SSU;SSUP;SSYT;SSYX;SSY;SSYP;SSYRX;SSYR;ZHAT;ZHAX;ZHA;ZHAP;ZHUOX;ZHUO;ZHUOP;ZHOT;ZHOX;ZHO;ZHOP;ZHET
  A352 YI SYLLABLE :ZHEX;ZHE;ZHEP;ZHUT;ZHUX;ZHU;ZHUP;ZHURX;ZHUR;ZHYT;ZHYX;ZHY;ZHYP;ZHYRX;ZHYR;CHAT;CHAX;CHA;CHAP;CHUOT
  A366 YI SYLLABLE :CHUOX;CHUO;CHUOP;CHOT;CHOX;CHO;CHOP;CHET;CHEX;CHE;CHEP;CHUX;CHU;CHUP;CHURX;CHUR;CHYT;CHYX;CHY
  A379 YI SYLLABLE :CHYP;CHYRX;CHYR;RRAX;RRA;RRUOX;RRUO;RROT;RROX;RRO;RROP;RRET;RREX;RRE;RREP;RRUT;RRUX;RRU;RRUP;RRURX
  A38D YI SYLLABLE :RRUR;RRYT;RRYX;RRY;RRYP;RRYRX;RRYR;NRAT;NRAX;NRA;NRAP;NROX;NRO;NROP;NRET;NREX;NRE;NREP;NRUT;NRUX
  A3A1 YI SYLLABLE :NRU;NRUP;NRURX;NRUR;NRYT;NRYX;NRY;NRYP;NRYRX;NRYR;SHAT;SHAX;SHA;SHAP;SHUOX;SHUO;SHUOP;SHOT;SHOX
  A3B4 YI SYLLABLE :SHO;SHOP;SHET;SHEX;SHE;SHEP;SHUT;SHUX;SHU;SHUP;SHURX;SHUR;SHYT;SHYX;SHY;SHYP;SHYRX;SHYR;RAT;RAX
  A3C8 YI SYLLABLE :RA;RAP;RUOX;RUO;RUOP;ROT;ROX;RO;ROP;REX;RE;REP;RUT;RUX;RU;RUP;RURX;RUR;RYT;RYX;RY;RYP;RYRX;RYR;JIT
  A3E1 YI SYLLABLE :JIX;JI;JIP;JIET;JIEX;JIE;JIEP;JUOT;JUOX;JUO;JUOP;JOT;JOX;JO;JOP;JUT;JUX;JU;JUP;JURX;JUR;JYT;JYX
  A3F8 YI SYLLABLE :JY;JYP;JYRX;JYR;QIT;QIX;QI;QIP;QIET;QIEX;QIE;QIEP;QUOT;QUOX;QUO;QUOP;QOT;QOX;QO;QOP;QUT;QUX;QU;QUP
  A410 YI SYLLABLE :QURX;QUR;QYT;QYX;QY;QYP;QYRX;QYR;JJIT;JJIX;JJI;JJIP;JJIET;JJIEX;JJIE;JJIEP;JJUOX;JJUO;JJUOP;JJOT
  A424 YI SYLLABLE :JJOX;JJO;JJOP;JJUT;JJUX;JJU;JJUP;JJURX;JJUR;JJYT;JJYX;JJY;JJYP;NJIT;NJIX;NJI;NJIP;NJIET;NJIEX;NJIE
  A438 YI SYLLABLE :NJIEP;NJUOX;NJUO;NJOT;NJOX;NJO;NJOP;NJUX;NJU;NJUP;NJURX;NJUR;NJYT;NJYX;NJY;NJYP;NJYRX;NJYR;NYIT
  A44B YI SYLLABLE :NYIX;NYI;NYIP;NYIET;NYIEX;NYIE;NYIEP;NYUOX;NYUO;NYUOP;NYOT;NYOX;NYO;NYOP;NYUT;NYUX;NYU;NYUP;XIT
  A45E YI SYLLABLE :XIX;XI;XIP;XIET;XIEX;XIE;XIEP;XUOX;XUO;XOT;XOX;XO;XOP;XYT;XYX;XY;XYP;XYRX;XYR;YIT;YIX;YI;YIP;YIET
  A476 YI SYLLABLE :YIEX;YIE;YIEP;YUOT;YUOX;YUO;YUOP;YOT;YOX;YO;YOP;YUT;YUX;YU;YUP;YURX;YUR;YYT;YYX;YY;YYP;YYRX;YYR
  A490 YI RADICAL :QOT;LI;KIT;NYIP;CYP;SSI;GGOP
  A497 YI RADICAL :GEP;MI;HXIT;LYR;BBUT;MOP;YO;PUT;HXUO;TAT;GA;ZUP;CYT;DDUR;BUR;GGUO;NYOP;TU;OP;JJUT;ZOT;PYT;HMO;YIT
  A4AF YI RADICAL :VUR;SHY;VEP;ZA;JO;NZUP;JJY;GOT;JJIE;WO;DU;SHUR;LIE;CY;CUOP;CIP;HXOP;SHAT;ZUR;SHOP;CHE;ZZIET;NBIE;KE
  A4D0 LISU LETTER :BA;PA;PHA;DA;TA;THA;GA;KA;KHA;JA;CA;CHA;DZA;TSA;TSHA
  A4DF LISU LETTER :MA;NA;LA;SA;ZHA;ZA;NGA;HA;XA;HHA;FA;WA;SHA;YA;GHA;A;AE;E;EU;I;O;U;UE;UH;OE;TONE MYA TI;TONE NA PO
  A4FA LISU LETTER TONE MYA :CYA;BO;NA;JEU
  A4FE LISU PUNCTUATION :COMMA;FULL STOP
  A500 VAI SYLLABLE :EE;EEN;HEE;WEE;WEEN;PEE;BHEE;BEE;MBEE;KPEE;MGBEE;GBEE;FEE;VEE;TEE
  A50F VAI SYLLABLE :THEE;DHEE;DHHEE;LEE;REE;DEE;NDEE;SEE;SHEE;ZEE;ZHEE;CEE;JEE;NJEE;YEE;KEE;NGGEE;GEE;MEE;NEE;NYEE
  A524 VAI SYLLABLE :I;IN;HI;HIN;WI;WIN;PI;BHI;BI;MBI;KPI;MGBI;GBI;FI;VI;TI;THI;DHI;DHHI;LI;RI;DI;NDI;SI;SHI;ZI;ZHI
  A53F VAI SYLLABLE :CI;JI;NJI;YI;KI;NGGI;GI;MI;NI;NYI;A;AN;NGAN;HA;HAN;WA;WAN;PA;BHA;BA;MBA;KPA;KPAN;MGBA;GBA;FA;VA
  A55A VAI SYLLABLE :TA;THA;DHA;DHHA;LA;RA;DA;NDA;SA;SHA;ZA;ZHA;CA;JA;NJA;YA;KA;KAN;NGGA;GA;MA;NA;NYA;OO;OON;HOO;WOO
  A575 VAI SYLLABLE :WOON;POO;BHOO;BOO;MBOO;KPOO;MGBOO;GBOO;FOO;VOO;TOO;THOO;DHOO;DHHOO;LOO;ROO;DOO;NDOO;SOO;SHOO;ZOO
  A58A VAI SYLLABLE :ZHOO;COO;JOO;NJOO;YOO;KOO;NGGOO;GOO;MOO;NOO;NYOO;U;UN;HU;HUN;WU;WUN;PU;BHU;BU;MBU;KPU;MGBU;GBU
  A5A2 VAI SYLLABLE :FU;VU;TU;THU;DHU;DHHU;LU;RU;DU;NDU;SU;SHU;ZU;ZHU;CU;JU;NJU;YU;KU;NGGU;GU;MU;NU;NYU;O;ON;NGON;HO
  A5BE VAI SYLLABLE :HON;WO;WON;PO;BHO;BO;MBO;KPO;MGBO;GBO;GBON;FO;VO;TO;THO;DHO;DHHO;LO;RO;DO;NDO;SO;SHO;ZO;ZHO;CO;JO
  A5D9 VAI SYLLABLE :NJO;YO;KO;NGGO;GO;MO;NO;NYO;E;EN;NGEN;HE;HEN;WE;WEN;PE;BHE;BE;MBE;KPE;KPEN;MGBE;GBE;GBEN;FE;VE;TE
  A5F4 VAI SYLLABLE :THE;DHE;DHHE;LE;RE;DE;NDE;SE;SHE;ZE;ZHE;CE;JE;NJE;YE;KE;NGGE;NGGEN;GE;GEN;ME;NE;NYE;NG;LENGTHENER
  A60D VAI :COMMA;FULL STOP;QUESTION MARK
  A610 VAI SYLLABLE NDOLE :FA;KA;SOO
  A613 VAI SYMBOL :FEENG;KEENG;TING;NII;BANG;FAA;TAA;DANG;DOONG;KUNG;TONG;DO-O;JONG
  A620 VAI DIGIT :ZERO;ONE;TWO;THREE;FOUR;FIVE;SIX;SEVEN;EIGHT;NINE
  A62A VAI SYLLABLE NDOLE :MA;DO
  A640 CYRILLIC :CAPITAL LETTER ZEMLYA;SMALL LETTER ZEMLYA;CAPITAL LETTER DZELO
  A643 CYRILLIC :SMALL LETTER DZELO;CAPITAL LETTER REVERSED DZE;SMALL LETTER REVERSED DZE;CAPITAL LETTER IOTA
  A647 CYRILLIC :SMALL LETTER IOTA;CAPITAL LETTER DJERV;SMALL LETTER DJERV;CAPITAL LETTER MONOGRAPH UK
  A64B CYRILLIC :SMALL LETTER MONOGRAPH UK;CAPITAL LETTER BROAD OMEGA;SMALL LETTER BROAD OMEGA
  A64E CYRILLIC :CAPITAL LETTER NEUTRAL YER;SMALL LETTER NEUTRAL YER;CAPITAL LETTER YERU WITH BACK YER
  A651 CYRILLIC :SMALL LETTER YERU WITH BACK YER;CAPITAL LETTER IOTIFIED YAT;SMALL LETTER IOTIFIED YAT
  A654 CYRILLIC :CAPITAL LETTER REVERSED YU;SMALL LETTER REVERSED YU;CAPITAL LETTER IOTIFIED A
  A657 CYRILLIC :SMALL LETTER IOTIFIED A;CAPITAL LETTER CLOSED LITTLE YUS;SMALL LETTER CLOSED LITTLE YUS
  A65A CYRILLIC :CAPITAL LETTER BLENDED YUS;SMALL LETTER BLENDED YUS;CAPITAL LETTER IOTIFIED CLOSED LITTLE YUS
  A65D CYRILLIC :SMALL LETTER IOTIFIED CLOSED LITTLE YUS;CAPITAL LETTER YN;SMALL LETTER YN;CAPITAL LETTER REVERSED TSE
  A661 CYRILLIC :SMALL LETTER REVERSED TSE;CAPITAL LETTER SOFT DE;SMALL LETTER SOFT DE;CAPITAL LETTER SOFT EL
  A665 CYRILLIC :SMALL LETTER SOFT EL;CAPITAL LETTER SOFT EM;SMALL LETTER SOFT EM;CAPITAL LETTER MONOCULAR O
  A669 CYRILLIC :SMALL LETTER MONOCULAR O;CAPITAL LETTER BINOCULAR O;SMALL LETTER BINOCULAR O
  A66C CYRILLIC :CAPITAL LETTER DOUBLE MONOCULAR O;SMALL LETTER DOUBLE MONOCULAR O;LETTER MULTIOCULAR O
  A66F COMBINING CYRILLIC :VZMET;TEN MILLIONS SIGN;HUNDRED MILLIONS SIGN;THOUSAND MILLIONS SIGN
  A673 :SLAVONIC ASTERISK
  A674 COMBINING CYRILLIC LETTER :UKRAINIAN IE;I;YI;U;HARD SIGN;YERU;SOFT SIGN;OMEGA
  A67C COMBINING CYRILLIC :KAVYKA;PAYEROK
  A67E CYRILLIC :KAVYKA;PAYEROK;CAPITAL LETTER DWE;SMALL LETTER DWE
  A682 CYRILLIC :CAPITAL LETTER DZWE;SMALL LETTER DZWE;CAPITAL LETTER ZHWE;SMALL LETTER ZHWE;CAPITAL LETTER CCHE
  A687 CYRILLIC :SMALL LETTER CCHE;CAPITAL LETTER DZZE;SMALL LETTER DZZE;CAPITAL LETTER TE WITH MIDDLE HOOK
  A68B CYRILLIC :SMALL LETTER TE WITH MIDDLE HOOK;CAPITAL LETTER TWE;SMALL LETTER TWE
  A68E CYRILLIC :CAPITAL LETTER TSWE;SMALL LETTER TSWE;CAPITAL LETTER TSSE;SMALL LETTER TSSE;CAPITAL LETTER TCHE
  A693 CYRILLIC :SMALL LETTER TCHE;CAPITAL LETTER HWE;SMALL LETTER HWE;CAPITAL LETTER SHWE;SMALL LETTER SHWE
  A698 CYRILLIC :CAPITAL LETTER DOUBLE O;SMALL LETTER DOUBLE O;CAPITAL LETTER CROSSED O;SMALL LETTER CROSSED O
  A69C MODIFIER LETTER CYRILLIC :HARD SIGN;SOFT SIGN
  A69E COMBINING CYRILLIC LETTER :EF;IOTIFIED E
  A6A0 BAMUM LETTER :A;KA;U;KU;EE;REE;TAE;O;NYI;I;LA;PA;RII
  A6AD BAMUM LETTER :RIEE;LEEEE;MEEEE;TAA;NDAA;NJAEM;M;SUU;MU;SHII;SI;SHEUX;SEUX;KYEE;KET;NUAE;NU;NJUAE;YOQ;SHU;YUQ
  A6C2 BAMUM LETTER :YA;NSHA;KEUX;PEUX;NJEE;NTEE;PUE;WUE;PEE;FEE;RU;LU;MI;NI;REUX;RAE;KEN;NGKWAEN;NGGA;NGA;SHO;PUAE;FU
  A6D9 BAMUM LETTER :FOM;WA;NA;LI;PI;LOQ;KO;MBEN;REN;MEN;MA;TI;KI;MO;MBAA;TET;KPA;TEN;NTUU;SAMBA;FAAMAE;KOVUU;KOGHOM
  A6F0 BAMUM COMBINING MARK :KOQNDON;TUKWENTIS
  A6F2 BAMUM :NJAEMLI;FULL STOP;COLON;COMMA;SEMICOLON;QUESTION MARK
  A700 MODIFIER LETTER CHINESE TONE :YIN PING;YANG PING;YIN SHANG;YANG SHANG;YIN QU;YANG QU;YIN RU;YANG RU
  A708 MODIFIER LETTER :EXTRA-HIGH DOTTED TONE BAR;HIGH DOTTED TONE BAR;MID DOTTED TONE BAR;LOW DOTTED TONE BAR
  A70C MODIFIER LETTER EXTRA-:LOW DOTTED TONE BAR;HIGH DOTTED LEFT-STEM TONE BAR
  A70E MODIFIER LETTER :HIGH DOTTED LEFT-STEM TONE BAR;MID DOTTED LEFT-STEM TONE BAR;LOW DOTTED LEFT-STEM TONE BAR
  A711 MODIFIER LETTER :EXTRA-LOW DOTTED LEFT-STEM TONE BAR;EXTRA-HIGH LEFT-STEM TONE BAR;HIGH LEFT-STEM TONE BAR
  A714 MODIFIER LETTER :MID LEFT-STEM TONE BAR;LOW LEFT-STEM TONE BAR;EXTRA-LOW LEFT-STEM TONE BAR
  A717 MODIFIER LETTER :DOT VERTICAL BAR;DOT SLASH;DOT HORIZONTAL BAR;LOWER RIGHT CORNER ANGLE
  A71B MODIFIER LETTER RAISED :UP ARROW;DOWN ARROW;EXCLAMATION MARK;INVERTED EXCLAMATION MARK
  A71F MODIFIER LETTER :LOW INVERTED EXCLAMATION MARK;STRESS AND HIGH TONE;STRESS AND LOW TONE
  A722 LATIN :CAPITAL LETTER EGYPTOLOGICAL ALEF;SMALL LETTER EGYPTOLOGICAL ALEF
  A724 LATIN :CAPITAL LETTER EGYPTOLOGICAL AIN;SMALL LETTER EGYPTOLOGICAL AIN;CAPITAL LETTER HENG;SMALL LETTER HENG
  A728 LATIN :CAPITAL LETTER TZ;SMALL LETTER TZ;CAPITAL LETTER TRESILLO;SMALL LETTER TRESILLO;CAPITAL LETTER CUATRILLO
  A72D LATIN :SMALL LETTER CUATRILLO;CAPITAL LETTER CUATRILLO WITH COMMA;SMALL LETTER CUATRILLO WITH COMMA
  A730 LATIN LETTER SMALL CAPITAL :F;S
  A732 LATIN :CAPITAL LETTER AA;SMALL LETTER AA;CAPITAL LETTER AO;SMALL LETTER AO;CAPITAL LETTER AU
  A737 LATIN :SMALL LETTER AU;CAPITAL LETTER AV;SMALL LETTER AV;CAPITAL LETTER AV WITH HORIZONTAL BAR
  A73B LATIN :SMALL LETTER AV WITH HORIZONTAL BAR;CAPITAL LETTER AY;SMALL LETTER AY
  A73E LATIN :CAPITAL LETTER REVERSED C WITH DOT;SMALL LETTER REVERSED C WITH DOT;CAPITAL LETTER K WITH STROKE
  A741 LATIN :SMALL LETTER K WITH STROKE;CAPITAL LETTER K WITH DIAGONAL STROKE;SMALL LETTER K WITH DIAGONAL STROKE
  A744 LATIN :CAPITAL LETTER K WITH STROKE AND DIAGONAL STROKE;SMALL LETTER K WITH STROKE AND DIAGONAL STROKE
  A746 LATIN :CAPITAL LETTER BROKEN L;SMALL LETTER BROKEN L;CAPITAL LETTER L WITH HIGH STROKE
  A749 LATIN :SMALL LETTER L WITH HIGH STROKE;CAPITAL LETTER O WITH LONG STROKE OVERLAY
  A74B LATIN :SMALL LETTER O WITH LONG STROKE OVERLAY;CAPITAL LETTER O WITH LOOP;SMALL LETTER O WITH LOOP
  A74E LATIN :CAPITAL LETTER OO;SMALL LETTER OO;CAPITAL LETTER P WITH STROKE THROUGH DESCENDER
  A751 LATIN :SMALL LETTER P WITH STROKE THROUGH DESCENDER;CAPITAL LETTER P WITH FLOURISH
  A753 LATIN :SMALL LETTER P WITH FLOURISH;CAPITAL LETTER P WITH SQUIRREL TAIL;SMALL LETTER P WITH SQUIRREL TAIL
  A756 LATIN :CAPITAL LETTER Q WITH STROKE THROUGH DESCENDER;SMALL LETTER Q WITH STROKE THROUGH DESCENDER
  A758 LATIN :CAPITAL LETTER Q WITH DIAGONAL STROKE;SMALL LETTER Q WITH DIAGONAL STROKE
  A75A LATIN :CAPITAL LETTER R ROTUNDA;SMALL LETTER R ROTUNDA;CAPITAL LETTER RUM ROTUNDA;SMALL LETTER RUM ROTUNDA
  A75E LATIN :CAPITAL LETTER V WITH DIAGONAL STROKE;SMALL LETTER V WITH DIAGONAL STROKE;CAPITAL LETTER VY
  A761 LATIN :SMALL LETTER VY;CAPITAL LETTER VISIGOTHIC Z;SMALL LETTER VISIGOTHIC Z;CAPITAL LETTER THORN WITH STROKE
  A765 LATIN :SMALL LETTER THORN WITH STROKE;CAPITAL LETTER THORN WITH STROKE THROUGH DESCENDER
  A767 LATIN :SMALL LETTER THORN WITH STROKE THROUGH DESCENDER;CAPITAL LETTER VEND;SMALL LETTER VEND
  A76A LATIN :CAPITAL LETTER ET;SMALL LETTER ET;CAPITAL LETTER IS;SMALL LETTER IS;CAPITAL LETTER CON;SMALL LETTER CON
  A770 :MODIFIER LETTER US
  A771 LATIN SMALL LETTER :DUM;LUM;MUM;NUM;RUM
  A776 LATIN :LETTER SMALL CAPITAL RUM;SMALL LETTER TUM;SMALL LETTER UM
  A779 LATIN :CAPITAL LETTER INSULAR D;SMALL LETTER INSULAR D;CAPITAL LETTER INSULAR F;SMALL LETTER INSULAR F
  A77D LATIN CAPITAL LETTER :INSULAR G;TURNED INSULAR G
  A77F :LATIN SMALL LETTER TURNED INSULAR G
  A780 LATIN :CAPITAL LETTER TURNED L;SMALL LETTER TURNED L;CAPITAL LETTER INSULAR R;SMALL LETTER INSULAR R
  A784 LATIN :CAPITAL LETTER INSULAR S;SMALL LETTER INSULAR S;CAPITAL LETTER INSULAR T;SMALL LETTER INSULAR T
  A788 MODIFIER LETTER :LOW CIRCUMFLEX ACCENT;COLON;SHORT EQUALS SIGN
  A78B LATIN :CAPITAL LETTER SALTILLO;SMALL LETTER SALTILLO
  A78D LATIN :CAPITAL LETTER TURNED H;SMALL LETTER L WITH RETROFLEX HOOK AND BELT;LETTER SINOLOGICAL DOT
  A790 LATIN :CAPITAL LETTER N WITH DESCENDER;SMALL LETTER N WITH DESCENDER;CAPITAL LETTER C WITH BAR
  A793 LATIN SMALL LETTER :C WITH BAR;C WITH PALATAL HOOK;H WITH PALATAL HOOK
  A796 LATIN :CAPITAL LETTER B WITH FLOURISH;SMALL LETTER B WITH FLOURISH
  A798 LATIN :CAPITAL LETTER F WITH STROKE;SMALL LETTER F WITH STROKE;CAPITAL LETTER VOLAPUK AE
  A79B LATIN :SMALL LETTER VOLAPUK AE;CAPITAL LETTER VOLAPUK OE;SMALL LETTER VOLAPUK OE;CAPITAL LETTER VOLAPUK UE
  A79F LATIN :SMALL LETTER VOLAPUK UE;CAPITAL LETTER G WITH OBLIQUE STROKE;SMALL LETTER G WITH OBLIQUE STROKE
  A7A2 LATIN :CAPITAL LETTER K WITH OBLIQUE STROKE;SMALL LETTER K WITH OBLIQUE STROKE
  A7A4 LATIN :CAPITAL LETTER N WITH OBLIQUE STROKE;SMALL LETTER N WITH OBLIQUE STROKE
  A7A6 LATIN :CAPITAL LETTER R WITH OBLIQUE STROKE;SMALL LETTER R WITH OBLIQUE STROKE
  A7A8 LATIN :CAPITAL LETTER S WITH OBLIQUE STROKE;SMALL LETTER S WITH OBLIQUE STROKE
  A7AA LATIN CAPITAL LETTER :H WITH HOOK;REVERSED OPEN E;SCRIPT G;L WITH BELT;SMALL CAPITAL I
  A7AF :LATIN LETTER SMALL CAPITAL Q
  A7B0 LATIN CAPITAL LETTER :TURNED K;TURNED T;J WITH CROSSED-TAIL;CHI;BETA
  A7B5 LATIN :SMALL LETTER BETA;CAPITAL LETTER OMEGA;SMALL LETTER OMEGA;CAPITAL LETTER U WITH STROKE
  A7B9 LATIN :SMALL LETTER U WITH STROKE;CAPITAL LETTER GLOTTAL A;SMALL LETTER GLOTTAL A;CAPITAL LETTER GLOTTAL I
  A7BD LATIN :SMALL LETTER GLOTTAL I;CAPITAL LETTER GLOTTAL U;SMALL LETTER GLOTTAL U;CAPITAL LETTER OLD POLISH O
  A7C1 LATIN :SMALL LETTER OLD POLISH O;CAPITAL LETTER ANGLICANA W;SMALL LETTER ANGLICANA W
  A7C4 LATIN CAPITAL LETTER :C WITH PALATAL HOOK;S WITH HOOK;Z WITH PALATAL HOOK;D WITH SHORT STROKE OVERLAY
  A7C8 :LATIN SMALL LETTER D WITH SHORT STROKE OVERLAY
  A7C9 LATIN :CAPITAL LETTER S WITH SHORT STROKE OVERLAY;SMALL LETTER S WITH SHORT STROKE OVERLAY
  A7D0 LATIN :CAPITAL LETTER CLOSED INSULAR G;SMALL LETTER CLOSED INSULAR G
  A7D3 :LATIN SMALL LETTER DOUBLE THORN
  A7D5 LATIN :SMALL LETTER DOUBLE WYNN;CAPITAL LETTER MIDDLE SCOTS S
  A7D7 LATIN :SMALL LETTER MIDDLE SCOTS S;CAPITAL LETTER SIGMOID S;SMALL LETTER SIGMOID S
  A7F2 MODIFIER LETTER CAPITAL :C;F;Q
  A7F5 LATIN :CAPITAL LETTER REVERSED HALF H;SMALL LETTER REVERSED HALF H;EPIGRAPHIC LETTER SIDEWAYS I
  A7F8 MODIFIER LETTER :CAPITAL H WITH STROKE;SMALL LIGATURE OE
  A7FA :LATIN LETTER SMALL CAPITAL TURNED M
  A7FB LATIN EPIGRAPHIC LETTER :REVERSED F;REVERSED P;INVERTED M;I LONGA;ARCHAIC M
  A800 SYLOTI NAGRI :LETTER A;LETTER I;SIGN DVISVARA
  A803 SYLOTI NAGRI :LETTER U;LETTER E;LETTER O;SIGN HASANTA;LETTER KO;LETTER KHO;LETTER GO;LETTER GHO;SIGN ANUSVARA
  A80C SYLOTI NAGRI LETTER :CO;CHO;JO;JHO;TTO;TTHO;DDO;DDHO;TO;THO;DO;DHO;NO;PO;PHO;BO;BHO;MO;RO;LO;RRO;SO;HO
  A823 SYLOTI NAGRI VOWEL SIGN :A;I;U;E;OO
  A828 SYLOTI NAGRI POETRY MARK-:1;2;3;4
  A82C :SYLOTI NAGRI SIGN ALTERNATE HASANTA
  A830 NORTH INDIC FRACTION :ONE QUARTER;ONE HALF;THREE QUARTERS;ONE SIXTEENTH;ONE EIGHTH;THREE SIXTEENTHS
  A836 NORTH INDIC :QUARTER MARK;PLACEHOLDER MARK;RUPEE MARK;QUANTITY MARK
  A840 PHAGS-PA LETTER :KA;KHA;GA;NGA;CA;CHA;JA;NYA;TA;THA
  A84A PHAGS-PA LETTER :DA;NA;PA;PHA;BA;MA;TSA;TSHA;DZA;WA;ZHA;ZA;SMALL A;YA;RA;LA;SHA;SA;HA;A;I;U;E;O;QA;XA;FA;GGA;EE
  A867 PHAGS-PA SUBJOINED LETTER :WA;YA
  A869 PHAGS-PA LETTER :TTA;TTHA;DDA;NNA;ALTERNATE YA;VOICELESS SHA;VOICED HA;ASPIRATED FA
  A871 PHAGS-PA :SUBJOINED LETTER RA;SUPERFIXED LETTER RA;LETTER CANDRABINDU;SINGLE HEAD MARK;DOUBLE HEAD MARK
  A876 PHAGS-PA MARK :SHAD;DOUBLE SHAD
  A880 SAURASHTRA SIGN :ANUSVARA;VISARGA
  A882 SAURASHTRA LETTER :A;AA;I;II;U
  A887 SAURASHTRA LETTER :UU;VOCALIC R;VOCALIC RR;VOCALIC L;VOCALIC LL;E;EE;AI;O;OO;AU;KA;KHA;GA;GHA;NGA;CA;CHA;JA;JHA
  A89B SAURASHTRA LETTER :NYA;TTA;TTHA;DDA;DDHA;NNA;TA;THA;DA;DHA;NA;PA;PHA;BA;BHA;MA;YA;RA;LA;VA;SHA;SSA;SA;HA;LLA
  A8B4 :SAURASHTRA CONSONANT SIGN HAARU
  A8B5 SAURASHTRA VOWEL SIGN :AA;I;II;U;UU;VOCALIC R;VOCALIC RR;VOCALIC L;VOCALIC LL;E;EE;AI;O;OO;AU
  A8C4 SAURASHTRA SIGN :VIRAMA;CANDRABINDU
  A8CE SAURASHTRA :DANDA;DOUBLE DANDA
  A8D0 SAURASHTRA DIGIT :ZERO;ONE;TWO;THREE;FOUR;FIVE;SIX;SEVEN;EIGHT;NINE
  A8E0 COMBINING DEVANAGARI DIGIT :ZERO;ONE;TWO;THREE;FOUR;FIVE;SIX;SEVEN;EIGHT;NINE
  A8EA COMBINING DEVANAGARI LETTER :A;U;KA;NA;PA;RA;VI
  A8F1 :COMBINING DEVANAGARI SIGN AVAGRAHA
  A8F2 DEVANAGARI SIGN :SPACING CANDRABINDU;CANDRABINDU VIRAMA;DOUBLE CANDRABINDU VIRAMA
  A8F5 DEVANAGARI SIGN CANDRABINDU :TWO;THREE;AVAGRAHA
  A8F8 DEVANAGARI :SIGN PUSHPIKA;GAP FILLER;CARET;HEADSTROKE;SIGN SIDDHAM;JAIN OM;LETTER AY;VOWEL SIGN AY
  A900 KAYAH LI DIGIT :ZERO;ONE;TWO;THREE;FOUR;FIVE;SIX;SEVEN;EIGHT;NINE
  A90A KAYAH LI LETTER :KA;KHA;GA;NGA;SA;SHA;ZA;NYA;TA;HTA;NA;PA;PHA;MA;DA;BA;RA;YA;LA;WA;THA;HA;VA;CA;A;OE;I;OO
  A926 KAYAH LI VOWEL :UE;E;U;EE;O
  A92B KAYAH LI :TONE PLOPHU;TONE CALYA;TONE CALYA PLOPHU;SIGN CWI;SIGN SHYA
  A930 REJANG LETTER :KA;GA;NGA;TA;DA;NA;PA;BA;MA;CA;JA;NYA;SA;RA;LA;YA;WA;HA;MBA;NGGA;NDA;NYJA;A
  A947 REJANG VOWEL SIGN :I;U;E;AI;O;AU;EU;EA
  A94F REJANG CONSONANT SIGN :NG;N;R;H
  A953 :REJANG VIRAMA
  A95F :REJANG SECTION MARK
  A960 HANGUL CHOSEONG TIKEUT-:MIEUM;PIEUP;SIOS;CIEUC
  A964 HANGUL CHOSEONG RIEUL-:KIYEOK;SSANGKIYEOK;TIKEUT;SSANGTIKEUT;MIEUM;PIEUP;SSANGPIEUP;KAPYEOUNPIEUP;SIOS;CIEUC
  A96E HANGUL CHOSEONG :RIEUL-KHIEUKH;MIEUM-KIYEOK;MIEUM-TIKEUT
  A971 HANGUL CHOSEONG :MIEUM-SIOS;PIEUP-SIOS-THIEUTH;PIEUP-KHIEUKH;PIEUP-HIEUH;SSANGSIOS-PIEUP;IEUNG-RIEUL
  A977 HANGUL CHOSEONG :IEUNG-HIEUH;SSANGCIEUC-HIEUH;SSANGTHIEUTH;PHIEUPH-HIEUH;HIEUH-SIOS;SSANGYEORINHIEUH
  A980 JAVANESE SIGN :PANYANGGA;CECAK;LAYAR;WIGNYAN
  A984 JAVANESE LETTER :A;I KAWI;I;II;U;PA CEREK;NGA LELET;NGA LELET RASWADI;E;AI;O;KA;KA SASAK;KA MURDA;GA;GA MURDA
  A994 JAVANESE LETTER :NGA;CA;CA MURDA;JA;NYA MURDA;JA MAHAPRANA;NYA;TTA;TTA MAHAPRANA;DDA;DDA MAHAPRANA;NA MURDA
  A9A0 JAVANESE LETTER :TA;TA MURDA;DA;DA MAHAPRANA;NA;PA;PA MURDA;BA;BA MURDA;MA;YA;RA;RA AGUNG;LA;WA;SA MURDA
  A9B0 JAVANESE :LETTER SA MAHAPRANA;LETTER SA;LETTER HA;SIGN CECAK TELU
  A9B4 JAVANESE VOWEL SIGN :TARUNG;TOLONG;WULU;WULU MELIK;SUKU;SUKU MENDUT;TALING;DIRGA MURE;PEPET
  A9BD JAVANESE CONSONANT SIGN :KERET;PENGKAL;CAKRA
  A9C0 JAVANESE :PANGKON;LEFT RERENGGAN;RIGHT RERENGGAN
  A9C3 JAVANESE PADA :ANDAP;MADYA;LUHUR;WINDU;PANGKAT;LINGSA;LUNGSI;ADEG;ADEG ADEG;PISELEH
  A9CD :JAVANESE TURNED PADA PISELEH
  A9CF :JAVANESE PANGRANGKEP
  A9D0 JAVANESE DIGIT :ZERO;ONE;TWO;THREE;FOUR;FIVE;SIX;SEVEN;EIGHT;NINE
  A9DE JAVANESE PADA :TIRTA TUMETES;ISEN-ISEN
  A9E0 MYANMAR LETTER SHAN :GHA;CHA;JHA;NNA;BHA
  A9E5 MYANMAR :SIGN SHAN SAW;MODIFIER LETTER SHAN REDUPLICATION
  A9E7 MYANMAR LETTER TAI LAING :NYA;FA;GA;GHA;JA;JHA;DDA;DDHA;NNA
  A9F0 MYANMAR TAI LAING DIGIT :ZERO;ONE;TWO;THREE;FOUR;FIVE;SIX;SEVEN;EIGHT;NINE
  A9FA MYANMAR LETTER TAI LAING :LLA;DA;DHA;BA;BHA
  AA00 CHAM LETTER :A;I;U;E;AI;O;KA;KHA;GA;GHA;NGUE;NGA;CHA;CHHA
  AA0E CHAM LETTER :JA;JHA;NHUE;NHA;NHJA;TA;THA;DA;DHA;NUE;NA;DDA;PA;PPA;PHA;BA;BHA;MUE;MA;BBA;YA;RA;LA;VA;SSA;SA;HA
  AA29 CHAM VOWEL SIGN :AA;I;II;EI;U;OE;O;AI;AU;UE
  AA33 CHAM CONSONANT SIGN :YA;RA;LA;WA
  AA40 CHAM LETTER FINAL :K;G;NG
  AA43 :CHAM CONSONANT SIGN FINAL NG
  AA44 CHAM LETTER FINAL :CH;T;N;P;Y;R;L;SS
  AA4C CHAM CONSONANT SIGN FINAL :M;H
  AA50 CHAM DIGIT :ZERO;ONE;TWO;THREE;FOUR;FIVE;SIX;SEVEN;EIGHT;NINE
  AA5C CHAM PUNCTUATION :SPIRAL;DANDA;DOUBLE DANDA;TRIPLE DANDA
  AA60 MYANMAR LETTER KHAMTI :GA;CA;CHA;JA;JHA;NYA;TTA;TTHA;DDA;DDHA;DHA;NA;SA;HA;HHA;FA
  AA70 :MYANMAR MODIFIER LETTER KHAMTI REDUPLICATION
  AA71 MYANMAR LETTER KHAMTI :XA;ZA;RA
  AA74 MYANMAR LOGOGRAM KHAMTI :OAY;QN;HM
  AA77 MYANMAR SYMBOL AITON :EXCLAMATION;ONE;TWO
  AA7A MYANMAR :LETTER AITON RA;SIGN PAO KAREN TONE
  AA7C MYANMAR SIGN TAI LAING TONE-:2;5
  AA7E MYANMAR LETTER SHWE PALAUNG :CHA;SHA
  AA80 TAI VIET LETTER :LOW KO;HIGH KO;LOW KHO;HIGH KHO;LOW KHHO;HIGH KHHO;LOW GO;HIGH GO;LOW NGO;HIGH NGO;LOW CO
  AA8B TAI VIET LETTER :HIGH CO;LOW CHO;HIGH CHO;LOW SO;HIGH SO;LOW NYO;HIGH NYO;LOW DO;HIGH DO;LOW TO;HIGH TO;LOW THO
  AA97 TAI VIET LETTER :HIGH THO;LOW NO;HIGH NO;LOW BO;HIGH BO;LOW PO;HIGH PO;LOW PHO;HIGH PHO;LOW FO;HIGH FO;LOW MO
  AAA3 TAI VIET LETTER :HIGH MO;LOW YO;HIGH YO;LOW RO;HIGH RO;LOW LO;HIGH LO;LOW VO;HIGH VO;LOW HO;HIGH HO;LOW O
  AAAF TAI VIET :LETTER HIGH O;MAI KANG;VOWEL AA;VOWEL I;VOWEL UE;VOWEL U;VOWEL E;VOWEL O;MAI KHIT
  AAB8 TAI VIET VOWEL :IA;UEA;UA;AUE;AY;AN;AM
  AABF TAI VIET TONE MAI :EK;NUENG;THO;SONG
  AADB TAI VIET SYMBOL :KON;NUENG;SAM;HO HOI;KOI KOI
  AAE0 MEETEI MAYEK LETTER :E;O;CHA;NYA;TTA;TTHA;DDA;DDHA;NNA;SHA;SSA
  AAEB MEETEI MAYEK VOWEL SIGN :II;UU;AAI;AU;AAU
  AAF0 :MEETEI MAYEK CHEIKHAN
  AAF1 MEETEI MAYEK :AHANG KHUDAM;ANJI;SYLLABLE REPETITION MARK;WORD REPETITION MARK;VOWEL SIGN VISARGA;VIRAMA
  AB01 ETHIOPIC SYLLABLE :TTHU;TTHI;TTHAA;TTHEE;TTHE;TTHO
  AB09 ETHIOPIC SYLLABLE :DDHU;DDHI;DDHAA;DDHEE;DDHE;DDHO
  AB11 ETHIOPIC SYLLABLE :DZU;DZI;DZAA;DZEE;DZE;DZO
  AB20 ETHIOPIC SYLLABLE :CCHHA;CCHHU;CCHHI;CCHHAA;CCHHEE;CCHHE;CCHHO
  AB28 ETHIOPIC SYLLABLE :BBA;BBU;BBI;BBAA;BBEE;BBE;BBO
  AB30 LATIN SMALL LETTER :BARRED ALPHA;A REVERSED-SCHWA;BLACKLETTER E;BARRED E;E WITH FLOURISH
  AB35 LATIN SMALL LETTER :LENIS F;SCRIPT G WITH CROSSED-TAIL;L WITH INVERTED LAZY S;L WITH DOUBLE MIDDLE TILDE
  AB39 LATIN SMALL LETTER :L WITH MIDDLE RING;M WITH CROSSED-TAIL;N WITH CROSSED-TAIL;ENG WITH CROSSED-TAIL
  AB3D LATIN SMALL LETTER :BLACKLETTER O;BLACKLETTER O WITH STROKE;OPEN O WITH STROKE;INVERTED OE
  AB41 LATIN SMALL LETTER TURNED :OE WITH STROKE;OE WITH HORIZONTAL STROKE;O OPEN-O;O OPEN-O WITH STROKE
  AB45 LATIN :SMALL LETTER STIRRUP R;LETTER SMALL CAPITAL R WITH RIGHT LEG;SMALL LETTER R WITHOUT HANDLE
  AB48 LATIN SMALL LETTER :DOUBLE R;R WITH CROSSED-TAIL;DOUBLE R WITH CROSSED-TAIL;SCRIPT R;SCRIPT R WITH RING
  AB4D LATIN SMALL LETTER :BASELINE ESH;U WITH SHORT RIGHT LEG;U BAR WITH SHORT RIGHT LEG;UI;TURNED UI
  AB52 LATIN SMALL LETTER :U WITH LEFT HOOK;CHI;CHI WITH LOW RIGHT RING;CHI WITH LOW LEFT SERIF;X WITH LOW RIGHT RING
  AB57 LATIN SMALL LETTER X WITH LONG LEFT :LEG;LEG AND LOW RIGHT RING;LEG WITH SERIF
  AB5A :LATIN SMALL LETTER Y WITH SHORT RIGHT LEG;MODIFIER BREVE WITH INVERTED BREVE
  AB5C MODIFIER LETTER SMALL :HENG;L WITH INVERTED LAZY S;L WITH MIDDLE TILDE;U WITH LEFT HOOK
  AB60 LATIN SMALL LETTER :SAKHA YAT;IOTIFIED E;OPEN OE;UO;INVERTED ALPHA
  AB65 :GREEK LETTER SMALL CAPITAL OMEGA
  AB66 LATIN SMALL LETTER :DZ DIGRAPH WITH RETROFLEX HOOK;TS DIGRAPH WITH RETROFLEX HOOK;TURNED R WITH MIDDLE TILDE
  AB69 MODIFIER LETTER :SMALL TURNED W;LEFT TACK;RIGHT TACK
  AB70 CHEROKEE SMALL LETTER :A;E;I;O;U;V;GA;KA;GE;GI;GO;GU;GV;HA;HE;HI;HO;HU;HV;LA;LE;LI;LO;LU;LV;MA;ME;MI
  AB8C CHEROKEE SMALL LETTER :MO;MU;NA;HNA;NAH;NE;NI;NO;NU;NV;QUA;QUE;QUI;QUO;QUU;QUV;SA;S;SE;SI;SO;SU;SV;DA;TA;DE;TE
  ABA7 CHEROKEE SMALL LETTER :DI;TI;DO;DU;DV;DLA;TLA;TLE;TLI;TLO;TLU;TLV;TSA;TSE;TSI;TSO;TSU;TSV;WA;WE;WI;WO;WU;WV;YA
  ABC0 MEETEI MAYEK LETTER :KOK;SAM;LAI;MIT;PA
  ABC5 MEETEI MAYEK LETTER :NA;CHIL;TIL;KHOU;NGOU;THOU;WAI;YANG;HUK;UN;I;PHAM;ATIYA;GOK;JHAM;RAI;BA;JIL;DIL;GHOU;DHOU
  ABDA MEETEI MAYEK LETTER :BHAM;KOK LONSUM;LAI LONSUM;MIT LONSUM;PA LONSUM;NA LONSUM;TIL LONSUM;NGOU LONSUM;I LONSUM
  ABE3 MEETEI MAYEK VOWEL SIGN :ONAP;INAP;ANAP;YENAP;SOUNAP;UNAP;CHEINAP;NUNG
  ABEB MEETEI MAYEK :CHEIKHEI;LUM IYEK;APUN IYEK
  ABF0 MEETEI MAYEK DIGIT :ZERO;ONE;TWO;THREE;FOUR;FIVE;SIX;SEVEN;EIGHT;NINE
  D7B0 HANGUL JUNGSEONG :O-YEO;O-O-I;YO-A;YO-AE;YO-EO;U-YEO;U-I-I
  D7B7 HANGUL JUNGSEONG :YU-AE;YU-O;EU-A;EU-EO;EU-E;EU-O;I-YA-O;I-YAE;I-YEO;I-YE;I-O-I;I-YO;I-YU;I-I;ARAEA-A;ARAEA-E
  D7CB HANGUL JONGSEONG :NIEUN-RIEUL;NIEUN-CHIEUCH;SSANGTIKEUT;SSANGTIKEUT-PIEUP
  D7CF HANGUL JONGSEONG TIKEUT-:PIEUP;SIOS;SIOS-KIYEOK;CIEUC;CHIEUCH;THIEUTH
  D7D5 HANGUL JONGSEONG :RIEUL-SSANGKIYEOK;RIEUL-KIYEOK-HIEUH;SSANGRIEUL-KHIEUKH
  D7D8 HANGUL JONGSEONG RIEUL-:MIEUM-HIEUH;PIEUP-TIKEUT;PIEUP-PHIEUPH;YESIEUNG;YEORINHIEUH-HIEUH
  D7DD HANGUL JONGSEONG :KAPYEOUNRIEUL;MIEUM-NIEUN;MIEUM-SSANGNIEUN;SSANGMIEUM;MIEUM-PIEUP-SIOS
  D7E2 HANGUL JONGSEONG :MIEUM-CIEUC;PIEUP-TIKEUT;PIEUP-RIEUL-PHIEUPH;PIEUP-MIEUM;SSANGPIEUP;PIEUP-SIOS-TIKEUT
  D7E8 HANGUL JONGSEONG :PIEUP-CIEUC;PIEUP-CHIEUCH;SIOS-MIEUM;SIOS-KAPYEOUNPIEUP;SSANGSIOS-KIYEOK;SSANGSIOS-TIKEUT
  D7EE HANGUL JONGSEONG SIOS-:PANSIOS;CIEUC;CHIEUCH;THIEUTH;HIEUH
  D7F3 HANGUL JONGSEONG :PANSIOS-PIEUP;PANSIOS-KAPYEOUNPIEUP;YESIEUNG-MIEUM
  D7F6 HANGUL JONGSEONG :YESIEUNG-HIEUH;CIEUC-PIEUP;CIEUC-SSANGPIEUP;SSANGCIEUC;PHIEUPH-SIOS;PHIEUPH-THIEUTH
  FB00 LATIN SMALL LIGATURE :FF;FI;FL;FFI;FFL;LONG S T;ST
  FB13 ARMENIAN SMALL LIGATURE :MEN NOW;MEN ECH;MEN INI;VEW NOW;MEN XEH
  FB1D HEBREW :LETTER YOD WITH HIRIQ;POINT JUDEO-SPANISH VARIKA;LIGATURE YIDDISH YOD YOD PATAH;LETTER ALTERNATIVE AYIN
  FB21 HEBREW LETTER WIDE :ALEF;DALET;HE;KAF;LAMED;FINAL MEM;RESH;TAV
  FB29 :HEBREW LETTER ALTERNATIVE PLUS SIGN
  FB2A HEBREW LETTER SHIN WITH :SHIN DOT;SIN DOT;DAGESH AND SHIN DOT;DAGESH AND SIN DOT
  FB2E HEBREW LETTER :ALEF WITH PATAH;ALEF WITH QAMATS;ALEF WITH MAPIQ;BET WITH DAGESH
  FB32 HEBREW LETTER :GIMEL WITH DAGESH;DALET WITH DAGESH;HE WITH MAPIQ;VAV WITH DAGESH;ZAYIN WITH DAGESH
  FB38 HEBREW LETTER :TET WITH DAGESH;YOD WITH DAGESH;FINAL KAF WITH DAGESH;KAF WITH DAGESH;LAMED WITH DAGESH
  FB3E :HEBREW LETTER MEM WITH DAGESH
  FB40 HEBREW LETTER :NUN WITH DAGESH;SAMEKH WITH DAGESH
  FB43 HEBREW LETTER :FINAL PE WITH DAGESH;PE WITH DAGESH
  FB46 HEBREW LETTER :TSADI WITH DAGESH;QOF WITH DAGESH;RESH WITH DAGESH
  FB49 HEBREW LETTER :SHIN WITH DAGESH;TAV WITH DAGESH;VAV WITH HOLAM;BET WITH RAFE;KAF WITH RAFE;PE WITH RAFE
  FB4F :HEBREW LIGATURE ALEF LAMED
  FB50 ARABIC LETTER ALEF WASLA :ISOLATED FORM;FINAL FORM
  FB52 ARABIC LETTER BEEH :ISOLATED FORM;FINAL FORM;INITIAL FORM;MEDIAL FORM
  FB56 ARABIC LETTER PEH :ISOLATED FORM;FINAL FORM;INITIAL FORM;MEDIAL FORM
  FB5A ARABIC LETTER BEHEH :ISOLATED FORM;FINAL FORM;INITIAL FORM;MEDIAL FORM
  FB5E ARABIC LETTER TTEHEH :ISOLATED FORM;FINAL FORM;INITIAL FORM;MEDIAL FORM
  FB62 ARABIC LETTER TEHEH :ISOLATED FORM;FINAL FORM;INITIAL FORM;MEDIAL FORM
  FB66 ARABIC LETTER TTEH :ISOLATED FORM;FINAL FORM;INITIAL FORM;MEDIAL FORM
  FB6A ARABIC LETTER VEH :ISOLATED FORM;FINAL FORM;INITIAL FORM;MEDIAL FORM
  FB6E ARABIC LETTER PEHEH :ISOLATED FORM;FINAL FORM;INITIAL FORM;MEDIAL FORM
  FB72 ARABIC LETTER DYEH :ISOLATED FORM;FINAL FORM;INITIAL FORM;MEDIAL FORM
  FB76 ARABIC LETTER NYEH :ISOLATED FORM;FINAL FORM;INITIAL FORM;MEDIAL FORM
  FB7A ARABIC LETTER TCHEH :ISOLATED FORM;FINAL FORM;INITIAL FORM;MEDIAL FORM
  FB7E ARABIC LETTER TCHEHEH :ISOLATED FORM;FINAL FORM;INITIAL FORM;MEDIAL FORM
  FB82 ARABIC LETTER DDAHAL :ISOLATED FORM;FINAL FORM
  FB84 ARABIC LETTER :DAHAL ISOLATED FORM;DAHAL FINAL FORM;DUL ISOLATED FORM;DUL FINAL FORM;DDAL ISOLATED FORM
  FB89 ARABIC LETTER :DDAL FINAL FORM;JEH ISOLATED FORM;JEH FINAL FORM;RREH ISOLATED FORM;RREH FINAL FORM
  FB8E ARABIC LETTER KEHEH :ISOLATED FORM;FINAL FORM;INITIAL FORM;MEDIAL FORM
  FB92 ARABIC LETTER GAF :ISOLATED FORM;FINAL FORM;INITIAL FORM;MEDIAL FORM
  FB96 ARABIC LETTER GUEH :ISOLATED FORM;FINAL FORM;INITIAL FORM;MEDIAL FORM
  FB9A ARABIC LETTER NGOEH :ISOLATED FORM;FINAL FORM;INITIAL FORM;MEDIAL FORM
  FB9E ARABIC LETTER NOON GHUNNA :ISOLATED FORM;FINAL FORM
  FBA0 ARABIC LETTER RNOON :ISOLATED FORM;FINAL FORM;INITIAL FORM;MEDIAL FORM
  FBA4 ARABIC LETTER HEH WITH YEH ABOVE :ISOLATED FORM;FINAL FORM
  FBA6 ARABIC LETTER HEH GOAL :ISOLATED FORM;FINAL FORM;INITIAL FORM;MEDIAL FORM
  FBAA ARABIC LETTER HEH DOACHASHMEE :ISOLATED FORM;FINAL FORM;INITIAL FORM;MEDIAL FORM
  FBAE ARABIC LETTER YEH BARREE :ISOLATED FORM;FINAL FORM;WITH HAMZA ABOVE ISOLATED FORM;WITH HAMZA ABOVE FINAL FORM
  FBB2 ARABIC SYMBOL :DOT ABOVE;DOT BELOW;TWO DOTS ABOVE;TWO DOTS BELOW
  FBB6 ARABIC SYMBOL THREE DOTS :ABOVE;BELOW;POINTING DOWNWARDS ABOVE;POINTING DOWNWARDS BELOW
  FBBA ARABIC SYMBOL :FOUR DOTS ABOVE;FOUR DOTS BELOW;DOUBLE VERTICAL BAR BELOW;TWO DOTS VERTICALLY ABOVE
  FBBE ARABIC SYMBOL :TWO DOTS VERTICALLY BELOW;RING;SMALL TAH ABOVE;SMALL TAH BELOW;WASLA ABOVE
  FBD3 ARABIC LETTER NG :ISOLATED FORM;FINAL FORM;INITIAL FORM;MEDIAL FORM
  FBD7 ARABIC LETTER :U ISOLATED FORM;U FINAL FORM;OE ISOLATED FORM;OE FINAL FORM
  FBDB ARABIC LETTER :YU ISOLATED FORM;YU FINAL FORM;U WITH HAMZA ABOVE ISOLATED FORM;VE ISOLATED FORM;VE FINAL FORM
  FBE0 ARABIC LETTER KIRGHIZ :OE ISOLATED FORM;OE FINAL FORM;YU ISOLATED FORM;YU FINAL FORM
  FBE4 ARABIC LETTER E :ISOLATED FORM;FINAL FORM;INITIAL FORM;MEDIAL FORM
  FBE8 ARABIC LETTER UIGHUR KAZAKH KIRGHIZ ALEF MAKSURA :INITIAL FORM;MEDIAL FORM
  FBEA ARABIC LIGATURE YEH WITH HAMZA ABOVE WITH :ALEF ISOLATED FORM;ALEF FINAL FORM;AE ISOLATED FORM;AE FINAL FORM
  FBEE ARABIC LIGATURE YEH WITH HAMZA ABOVE WITH :WAW ISOLATED FORM;WAW FINAL FORM;U ISOLATED FORM;U FINAL FORM
  FBF2 ARABIC LIGATURE YEH WITH HAMZA ABOVE WITH :OE ISOLATED FORM;OE FINAL FORM;YU ISOLATED FORM;YU FINAL FORM
  FBF6 ARABIC LIGATURE YEH WITH HAMZA ABOVE WITH E :ISOLATED FORM;FINAL FORM;INITIAL FORM
  FBF9 ARABIC LIGATURE UIGHUR KIRGHIZ YEH WITH HAMZA ABOVE WITH ALEF MAKSURA :ISOLATED FORM;FINAL FORM;INITIAL FORM
  FBFC ARABIC LETTER FARSI YEH :ISOLATED FORM;FINAL FORM;INITIAL FORM;MEDIAL FORM
  FC00 ARABIC LIGATURE YEH WITH HAMZA ABOVE WITH :JEEM ISOLATED FORM;HAH ISOLATED FORM
  FC02 ARABIC LIGATURE YEH WITH HAMZA ABOVE WITH :MEEM ISOLATED FORM;ALEF MAKSURA ISOLATED FORM;YEH ISOLATED FORM
  FC05 ARABIC LIGATURE BEH WITH :JEEM ISOLATED FORM;HAH ISOLATED FORM
  FC07 ARABIC LIGATURE BEH WITH :KHAH ISOLATED FORM;MEEM ISOLATED FORM;ALEF MAKSURA ISOLATED FORM;YEH ISOLATED FORM
  FC0B ARABIC LIGATURE TEH WITH :JEEM ISOLATED FORM;HAH ISOLATED FORM
  FC0D ARABIC LIGATURE TEH WITH :KHAH ISOLATED FORM;MEEM ISOLATED FORM;ALEF MAKSURA ISOLATED FORM;YEH ISOLATED FORM
  FC11 ARABIC LIGATURE THEH WITH :JEEM ISOLATED FORM;MEEM ISOLATED FORM;ALEF MAKSURA ISOLATED FORM;YEH ISOLATED FORM
  FC15 ARABIC LIGATURE JEEM WITH :HAH ISOLATED FORM;MEEM ISOLATED FORM
  FC17 ARABIC LIGATURE HAH WITH :JEEM ISOLATED FORM;MEEM ISOLATED FORM
  FC19 ARABIC LIGATURE KHAH WITH :JEEM ISOLATED FORM;HAH ISOLATED FORM;MEEM ISOLATED FORM
  FC1C ARABIC LIGATURE SEEN WITH :JEEM ISOLATED FORM;HAH ISOLATED FORM;KHAH ISOLATED FORM;MEEM ISOLATED FORM
  FC20 ARABIC LIGATURE SAD WITH :HAH ISOLATED FORM;MEEM ISOLATED FORM
  FC22 ARABIC LIGATURE DAD WITH :JEEM ISOLATED FORM;HAH ISOLATED FORM;KHAH ISOLATED FORM;MEEM ISOLATED FORM
  FC26 ARABIC LIGATURE TAH WITH :HAH ISOLATED FORM;MEEM ISOLATED FORM
  FC28 ARABIC LIGATURE :ZAH WITH MEEM ISOLATED FORM;AIN WITH JEEM ISOLATED FORM;AIN WITH MEEM ISOLATED FORM
  FC2B ARABIC LIGATURE GHAIN WITH :JEEM ISOLATED FORM;MEEM ISOLATED FORM
  FC2D ARABIC LIGATURE FEH WITH :JEEM ISOLATED FORM;HAH ISOLATED FORM
  FC2F ARABIC LIGATURE FEH WITH :KHAH ISOLATED FORM;MEEM ISOLATED FORM;ALEF MAKSURA ISOLATED FORM;YEH ISOLATED FORM
  FC33 ARABIC LIGATURE QAF WITH :HAH ISOLATED FORM;MEEM ISOLATED FORM;ALEF MAKSURA ISOLATED FORM;YEH ISOLATED FORM
  FC37 ARABIC LIGATURE KAF WITH :ALEF ISOLATED FORM;JEEM ISOLATED FORM;HAH ISOLATED FORM;KHAH ISOLATED FORM
  FC3B ARABIC LIGATURE KAF WITH :LAM ISOLATED FORM;MEEM ISOLATED FORM;ALEF MAKSURA ISOLATED FORM;YEH ISOLATED FORM
  FC3F ARABIC LIGATURE LAM WITH :JEEM ISOLATED FORM;HAH ISOLATED FORM
  FC41 ARABIC LIGATURE LAM WITH :KHAH ISOLATED FORM;MEEM ISOLATED FORM;ALEF MAKSURA ISOLATED FORM;YEH ISOLATED FORM
  FC45 ARABIC LIGATURE MEEM WITH :JEEM ISOLATED FORM;HAH ISOLATED FORM
  FC47 ARABIC LIGATURE MEEM WITH :KHAH ISOLATED FORM;MEEM ISOLATED FORM;ALEF MAKSURA ISOLATED FORM;YEH ISOLATED FORM
  FC4B ARABIC LIGATURE NOON WITH :JEEM ISOLATED FORM;HAH ISOLATED FORM
  FC4D ARABIC LIGATURE NOON WITH :KHAH ISOLATED FORM;MEEM ISOLATED FORM;ALEF MAKSURA ISOLATED FORM;YEH ISOLATED FORM
  FC51 ARABIC LIGATURE HEH WITH :JEEM ISOLATED FORM;MEEM ISOLATED FORM;ALEF MAKSURA ISOLATED FORM;YEH ISOLATED FORM
  FC55 ARABIC LIGATURE YEH WITH :JEEM ISOLATED FORM;HAH ISOLATED FORM
  FC57 ARABIC LIGATURE YEH WITH :KHAH ISOLATED FORM;MEEM ISOLATED FORM;ALEF MAKSURA ISOLATED FORM;YEH ISOLATED FORM
  FC5B :ARABIC LIGATURE THAL WITH SUPERSCRIPT ALEF ISOLATED FORM
  FC5C ARABIC LIGATURE :REH WITH SUPERSCRIPT ALEF ISOLATED FORM;ALEF MAKSURA WITH SUPERSCRIPT ALEF ISOLATED FORM
  FC5E ARABIC LIGATURE SHADDA WITH :DAMMATAN ISOLATED FORM;KASRATAN ISOLATED FORM;FATHA ISOLATED FORM
  FC61 ARABIC LIGATURE SHADDA WITH :DAMMA ISOLATED FORM;KASRA ISOLATED FORM;SUPERSCRIPT ALEF ISOLATED FORM
  FC64 ARABIC LIGATURE YEH WITH HAMZA ABOVE WITH :REH FINAL FORM;ZAIN FINAL FORM;MEEM FINAL FORM
  FC67 ARABIC LIGATURE YEH WITH HAMZA ABOVE WITH :NOON FINAL FORM;ALEF MAKSURA FINAL FORM;YEH FINAL FORM
  FC6A ARABIC LIGATURE BEH WITH :REH FINAL FORM;ZAIN FINAL FORM
  FC6C ARABIC LIGATURE BEH WITH :MEEM FINAL FORM;NOON FINAL FORM;ALEF MAKSURA FINAL FORM;YEH FINAL FORM
  FC70 ARABIC LIGATURE TEH WITH :REH FINAL FORM;ZAIN FINAL FORM
  FC72 ARABIC LIGATURE TEH WITH :MEEM FINAL FORM;NOON FINAL FORM;ALEF MAKSURA FINAL FORM;YEH FINAL FORM
  FC76 ARABIC LIGATURE THEH WITH :REH FINAL FORM;ZAIN FINAL FORM
  FC78 ARABIC LIGATURE THEH WITH :MEEM FINAL FORM;NOON FINAL FORM;ALEF MAKSURA FINAL FORM;YEH FINAL FORM
  FC7C ARABIC LIGATURE FEH WITH :ALEF MAKSURA FINAL FORM;YEH FINAL FORM
  FC7E ARABIC LIGATURE QAF WITH :ALEF MAKSURA FINAL FORM;YEH FINAL FORM
  FC80 ARABIC LIGATURE KAF WITH :ALEF FINAL FORM;LAM FINAL FORM;MEEM FINAL FORM;ALEF MAKSURA FINAL FORM;YEH FINAL FORM
  FC85 ARABIC LIGATURE LAM WITH :MEEM FINAL FORM;ALEF MAKSURA FINAL FORM;YEH FINAL FORM
  FC88 ARABIC LIGATURE MEEM WITH :ALEF FINAL FORM;MEEM FINAL FORM
  FC8A ARABIC LIGATURE NOON WITH :REH FINAL FORM;ZAIN FINAL FORM
  FC8C ARABIC LIGATURE NOON WITH :MEEM FINAL FORM;NOON FINAL FORM;ALEF MAKSURA FINAL FORM;YEH FINAL FORM
  FC90 ARABIC LIGATURE :ALEF MAKSURA WITH SUPERSCRIPT ALEF FINAL FORM;YEH WITH REH FINAL FORM;YEH WITH ZAIN FINAL FORM
  FC93 ARABIC LIGATURE YEH WITH :MEEM FINAL FORM;NOON FINAL FORM;ALEF MAKSURA FINAL FORM;YEH FINAL FORM
  FC97 ARABIC LIGATURE YEH WITH HAMZA ABOVE WITH :JEEM INITIAL FORM;HAH INITIAL FORM
  FC99 ARABIC LIGATURE YEH WITH HAMZA ABOVE WITH :KHAH INITIAL FORM;MEEM INITIAL FORM;HEH INITIAL FORM
  FC9C ARABIC LIGATURE BEH WITH :JEEM INITIAL FORM;HAH INITIAL FORM;KHAH INITIAL FORM;MEEM INITIAL FORM
  FCA0 ARABIC LIGATURE :BEH WITH HEH INITIAL FORM;TEH WITH JEEM INITIAL FORM
  FCA2 ARABIC LIGATURE TEH WITH :HAH INITIAL FORM;KHAH INITIAL FORM;MEEM INITIAL FORM;HEH INITIAL FORM
  FCA6 ARABIC LIGATURE :THEH WITH MEEM INITIAL FORM;JEEM WITH HAH INITIAL FORM;JEEM WITH MEEM INITIAL FORM
  FCA9 ARABIC LIGATURE HAH WITH :JEEM INITIAL FORM;MEEM INITIAL FORM
  FCAB ARABIC LIGATURE KHAH WITH :JEEM INITIAL FORM;MEEM INITIAL FORM
  FCAD ARABIC LIGATURE SEEN WITH :JEEM INITIAL FORM;HAH INITIAL FORM;KHAH INITIAL FORM;MEEM INITIAL FORM
  FCB1 ARABIC LIGATURE SAD WITH :HAH INITIAL FORM;KHAH INITIAL FORM;MEEM INITIAL FORM
  FCB4 ARABIC LIGATURE DAD WITH :JEEM INITIAL FORM;HAH INITIAL FORM;KHAH INITIAL FORM;MEEM INITIAL FORM
  FCB8 ARABIC LIGATURE :TAH WITH HAH INITIAL FORM;ZAH WITH MEEM INITIAL FORM;AIN WITH JEEM INITIAL FORM
  FCBB ARABIC LIGATURE :AIN WITH MEEM INITIAL FORM;GHAIN WITH JEEM INITIAL FORM;GHAIN WITH MEEM INITIAL FORM
  FCBE ARABIC LIGATURE FEH WITH :JEEM INITIAL FORM;HAH INITIAL FORM;KHAH INITIAL FORM;MEEM INITIAL FORM
  FCC2 ARABIC LIGATURE QAF WITH :HAH INITIAL FORM;MEEM INITIAL FORM
  FCC4 ARABIC LIGATURE KAF WITH :JEEM INITIAL FORM;HAH INITIAL FORM;KHAH INITIAL FORM;LAM INITIAL FORM
  FCC8 ARABIC LIGATURE :KAF WITH MEEM INITIAL FORM;LAM WITH JEEM INITIAL FORM
  FCCA ARABIC LIGATURE LAM WITH :HAH INITIAL FORM;KHAH INITIAL FORM;MEEM INITIAL FORM;HEH INITIAL FORM
  FCCE ARABIC LIGATURE MEEM WITH :JEEM INITIAL FORM;HAH INITIAL FORM;KHAH INITIAL FORM;MEEM INITIAL FORM
  FCD2 :ARABIC LIGATURE NOON WITH JEEM INITIAL FORM
  FCD3 ARABIC LIGATURE NOON WITH :HAH INITIAL FORM;KHAH INITIAL FORM;MEEM INITIAL FORM;HEH INITIAL FORM
  FCD7 ARABIC LIGATURE HEH WITH :JEEM INITIAL FORM;MEEM INITIAL FORM;SUPERSCRIPT ALEF INITIAL FORM
  FCDA ARABIC LIGATURE YEH WITH :JEEM INITIAL FORM;HAH INITIAL FORM;KHAH INITIAL FORM;MEEM INITIAL FORM
  FCDE ARABIC LIGATURE YEH WITH :HEH INITIAL FORM;HAMZA ABOVE WITH MEEM MEDIAL FORM;HAMZA ABOVE WITH HEH MEDIAL FORM
  FCE1 ARABIC LIGATURE BEH WITH :MEEM MEDIAL FORM;HEH MEDIAL FORM
  FCE3 ARABIC LIGATURE TEH WITH :MEEM MEDIAL FORM;HEH MEDIAL FORM
  FCE5 ARABIC LIGATURE THEH WITH :MEEM MEDIAL FORM;HEH MEDIAL FORM
  FCE7 ARABIC LIGATURE SEEN WITH :MEEM MEDIAL FORM;HEH MEDIAL FORM
  FCE9 ARABIC LIGATURE SHEEN WITH :MEEM MEDIAL FORM;HEH MEDIAL FORM
  FCEB ARABIC LIGATURE :KAF WITH LAM MEDIAL FORM;KAF WITH MEEM MEDIAL FORM;LAM WITH MEEM MEDIAL FORM
  FCEE ARABIC LIGATURE NOON WITH :MEEM MEDIAL FORM;HEH MEDIAL FORM
  FCF0 ARABIC LIGATURE YEH WITH :MEEM MEDIAL FORM;HEH MEDIAL FORM
  FCF2 ARABIC LIGATURE SHADDA WITH :FATHA MEDIAL FORM;DAMMA MEDIAL FORM;KASRA MEDIAL FORM
  FCF5 ARABIC LIGATURE TAH WITH :ALEF MAKSURA ISOLATED FORM;YEH ISOLATED FORM
  FCF7 ARABIC LIGATURE AIN WITH :ALEF MAKSURA ISOLATED FORM;YEH ISOLATED FORM
  FCF9 ARABIC LIGATURE GHAIN WITH :ALEF MAKSURA ISOLATED FORM;YEH ISOLATED FORM
  FCFB ARABIC LIGATURE SEEN WITH :ALEF MAKSURA ISOLATED FORM;YEH ISOLATED FORM
  FCFD ARABIC LIGATURE SHEEN WITH :ALEF MAKSURA ISOLATED FORM;YEH ISOLATED FORM
  FCFF ARABIC LIGATURE HAH WITH :ALEF MAKSURA ISOLATED FORM;YEH ISOLATED FORM
  FD01 ARABIC LIGATURE JEEM WITH :ALEF MAKSURA ISOLATED FORM;YEH ISOLATED FORM
  FD03 ARABIC LIGATURE KHAH WITH :ALEF MAKSURA ISOLATED FORM;YEH ISOLATED FORM
  FD05 ARABIC LIGATURE SAD WITH :ALEF MAKSURA ISOLATED FORM;YEH ISOLATED FORM
  FD07 ARABIC LIGATURE DAD WITH :ALEF MAKSURA ISOLATED FORM;YEH ISOLATED FORM
  FD09 ARABIC LIGATURE SHEEN WITH :JEEM ISOLATED FORM;HAH ISOLATED FORM;KHAH ISOLATED FORM;MEEM ISOLATED FORM
  FD0D ARABIC LIGATURE :SHEEN WITH REH ISOLATED FORM;SEEN WITH REH ISOLATED FORM;SAD WITH REH ISOLATED FORM
  FD10 ARABIC LIGATURE :DAD WITH REH ISOLATED FORM;TAH WITH ALEF MAKSURA FINAL FORM;TAH WITH YEH FINAL FORM
  FD13 ARABIC LIGATURE AIN WITH :ALEF MAKSURA FINAL FORM;YEH FINAL FORM
  FD15 ARABIC LIGATURE GHAIN WITH :ALEF MAKSURA FINAL FORM;YEH FINAL FORM
  FD17 ARABIC LIGATURE SEEN WITH :ALEF MAKSURA FINAL FORM;YEH FINAL FORM
  FD19 ARABIC LIGATURE SHEEN WITH :ALEF MAKSURA FINAL FORM;YEH FINAL FORM
  FD1B ARABIC LIGATURE HAH WITH :ALEF MAKSURA FINAL FORM;YEH FINAL FORM
  FD1D ARABIC LIGATURE JEEM WITH :ALEF MAKSURA FINAL FORM;YEH FINAL FORM
  FD1F ARABIC LIGATURE KHAH WITH :ALEF MAKSURA FINAL FORM;YEH FINAL FORM
  FD21 ARABIC LIGATURE SAD WITH :ALEF MAKSURA FINAL FORM;YEH FINAL FORM
  FD23 ARABIC LIGATURE DAD WITH :ALEF MAKSURA FINAL FORM;YEH FINAL FORM
  FD25 ARABIC LIGATURE SHEEN WITH :JEEM FINAL FORM;HAH FINAL FORM;KHAH FINAL FORM;MEEM FINAL FORM;REH FINAL FORM
  FD2A ARABIC LIGATURE :SEEN WITH REH FINAL FORM;SAD WITH REH FINAL FORM;DAD WITH REH FINAL FORM
  FD2D ARABIC LIGATURE SHEEN WITH :JEEM INITIAL FORM;HAH INITIAL FORM;KHAH INITIAL FORM;MEEM INITIAL FORM
  FD31 ARABIC LIGATURE :SEEN WITH HEH INITIAL FORM;SHEEN WITH HEH INITIAL FORM;TAH WITH MEEM INITIAL FORM
  FD34 ARABIC LIGATURE SEEN WITH :JEEM MEDIAL FORM;HAH MEDIAL FORM;KHAH MEDIAL FORM
  FD37 ARABIC LIGATURE SHEEN WITH :JEEM MEDIAL FORM;HAH MEDIAL FORM;KHAH MEDIAL FORM
  FD3A ARABIC LIGATURE :TAH WITH MEEM MEDIAL FORM;ZAH WITH MEEM MEDIAL FORM
  FD3C ARABIC LIGATURE ALEF WITH FATHATAN :FINAL FORM;ISOLATED FORM
  FD3E :ORNATE LEFT PARENTHESIS;ORNATE RIGHT PARENTHESIS;ARABIC LIGATURE RAHIMAHU ALLAAH
  FD41 ARABIC LIGATURE RADI ALLAAHU :ANH;ANHAA;ANHUM;ANHUMAA;ANHUNNA
  FD46 ARABIC LIGATURE :SALLALLAAHU ALAYHI WA-AALIH;ALAYHI AS-SALAAM;ALAYHIM AS-SALAAM;ALAYHIMAA AS-SALAAM
  FD4A ARABIC LIGATURE :ALAYHI AS-SALAATU WAS-SALAAM;QUDDISA SIRRAH;SALLALLAHU ALAYHI WAAALIHEE WA-SALLAM
  FD4D ARABIC LIGATURE :ALAYHAA AS-SALAAM;TABAARAKA WA-TAAALAA;RAHIMAHUM ALLAAH;TEH WITH JEEM WITH MEEM INITIAL FORM
  FD51 ARABIC LIGATURE TEH WITH HAH WITH :JEEM FINAL FORM;JEEM INITIAL FORM;MEEM INITIAL FORM
  FD54 :ARABIC LIGATURE TEH WITH KHAH WITH MEEM INITIAL FORM
  FD55 ARABIC LIGATURE TEH WITH MEEM WITH :JEEM INITIAL FORM;HAH INITIAL FORM;KHAH INITIAL FORM
  FD58 ARABIC LIGATURE JEEM WITH MEEM WITH HAH :FINAL FORM;INITIAL FORM
  FD5A ARABIC LIGATURE HAH WITH MEEM WITH :YEH FINAL FORM;ALEF MAKSURA FINAL FORM
  FD5C ARABIC LIGATURE SEEN WITH :HAH WITH JEEM INITIAL FORM;JEEM WITH HAH INITIAL FORM
  FD5E ARABIC LIGATURE SEEN WITH :JEEM WITH ALEF MAKSURA FINAL FORM;MEEM WITH HAH FINAL FORM
  FD60 ARABIC LIGATURE SEEN WITH MEEM WITH :HAH INITIAL FORM;JEEM INITIAL FORM;MEEM FINAL FORM;MEEM INITIAL FORM
  FD64 ARABIC LIGATURE SAD WITH :HAH WITH HAH FINAL FORM;HAH WITH HAH INITIAL FORM;MEEM WITH MEEM FINAL FORM
  FD67 ARABIC LIGATURE SHEEN WITH :HAH WITH MEEM FINAL FORM;HAH WITH MEEM INITIAL FORM;JEEM WITH YEH FINAL FORM
  FD6A ARABIC LIGATURE SHEEN WITH MEEM WITH :KHAH FINAL FORM;KHAH INITIAL FORM;MEEM FINAL FORM;MEEM INITIAL FORM
  FD6E :ARABIC LIGATURE DAD WITH HAH WITH ALEF MAKSURA FINAL FORM
  FD6F ARABIC LIGATURE DAD WITH KHAH WITH MEEM :FINAL FORM;INITIAL FORM
  FD71 ARABIC LIGATURE TAH WITH MEEM WITH :HAH FINAL FORM;HAH INITIAL FORM;MEEM INITIAL FORM;YEH FINAL FORM
  FD75 :ARABIC LIGATURE AIN WITH JEEM WITH MEEM FINAL FORM
  FD76 ARABIC LIGATURE AIN WITH MEEM WITH :MEEM FINAL FORM;MEEM INITIAL FORM;ALEF MAKSURA FINAL FORM
  FD79 ARABIC LIGATURE GHAIN WITH MEEM WITH :MEEM FINAL FORM;YEH FINAL FORM;ALEF MAKSURA FINAL FORM
  FD7C ARABIC LIGATURE FEH WITH KHAH WITH MEEM :FINAL FORM;INITIAL FORM
  FD7E ARABIC LIGATURE QAF WITH MEEM WITH :HAH FINAL FORM;MEEM FINAL FORM
  FD80 ARABIC LIGATURE LAM WITH HAH WITH :MEEM FINAL FORM;YEH FINAL FORM;ALEF MAKSURA FINAL FORM
  FD83 ARABIC LIGATURE LAM WITH JEEM WITH JEEM :INITIAL FORM;FINAL FORM
  FD85 ARABIC LIGATURE LAM WITH KHAH WITH MEEM :FINAL FORM;INITIAL FORM
  FD87 ARABIC LIGATURE LAM WITH MEEM WITH HAH :FINAL FORM;INITIAL FORM
  FD89 ARABIC LIGATURE MEEM WITH HAH WITH :JEEM INITIAL FORM;MEEM INITIAL FORM;YEH FINAL FORM
  FD8C ARABIC LIGATURE MEEM WITH JEEM WITH :HAH INITIAL FORM;MEEM INITIAL FORM
  FD8E ARABIC LIGATURE MEEM WITH KHAH WITH :JEEM INITIAL FORM;MEEM INITIAL FORM
  FD92 :ARABIC LIGATURE MEEM WITH JEEM WITH KHAH INITIAL FORM
  FD93 ARABIC LIGATURE HEH WITH MEEM WITH :JEEM INITIAL FORM;MEEM INITIAL FORM
  FD95 ARABIC LIGATURE NOON WITH HAH WITH :MEEM INITIAL FORM;ALEF MAKSURA FINAL FORM
  FD97 ARABIC LIGATURE NOON WITH JEEM WITH :MEEM FINAL FORM;MEEM INITIAL FORM;ALEF MAKSURA FINAL FORM
  FD9A ARABIC LIGATURE NOON WITH MEEM WITH :YEH FINAL FORM;ALEF MAKSURA FINAL FORM
  FD9C ARABIC LIGATURE YEH WITH MEEM WITH MEEM :FINAL FORM;INITIAL FORM
  FD9E :ARABIC LIGATURE BEH WITH KHAH WITH YEH FINAL FORM
  FD9F ARABIC LIGATURE TEH WITH JEEM WITH :YEH FINAL FORM;ALEF MAKSURA FINAL FORM
  FDA1 ARABIC LIGATURE TEH WITH :KHAH WITH YEH FINAL FORM;KHAH WITH ALEF MAKSURA FINAL FORM;MEEM WITH YEH FINAL FORM
  FDA4 ARABIC LIGATURE :TEH WITH MEEM WITH ALEF MAKSURA FINAL FORM;JEEM WITH MEEM WITH YEH FINAL FORM
  FDA6 ARABIC LIGATURE JEEM WITH :HAH WITH ALEF MAKSURA FINAL FORM;MEEM WITH ALEF MAKSURA FINAL FORM
  FDA8 ARABIC LIGATURE :SEEN WITH KHAH WITH ALEF MAKSURA FINAL FORM;SAD WITH HAH WITH YEH FINAL FORM
  FDAA ARABIC LIGATURE :SHEEN WITH HAH WITH YEH FINAL FORM;DAD WITH HAH WITH YEH FINAL FORM
  FDAC ARABIC LIGATURE LAM WITH :JEEM WITH YEH FINAL FORM;MEEM WITH YEH FINAL FORM
  FDAE ARABIC LIGATURE YEH WITH :HAH WITH YEH FINAL FORM;JEEM WITH YEH FINAL FORM;MEEM WITH YEH FINAL FORM
  FDB1 :ARABIC LIGATURE MEEM WITH MEEM WITH YEH FINAL FORM
  FDB2 ARABIC LIGATURE :QAF WITH MEEM WITH YEH FINAL FORM;NOON WITH HAH WITH YEH FINAL FORM
  FDB4 ARABIC LIGATURE :QAF WITH MEEM WITH HAH INITIAL FORM;LAM WITH HAH WITH MEEM INITIAL FORM
  FDB6 ARABIC LIGATURE :AIN WITH MEEM WITH YEH FINAL FORM;KAF WITH MEEM WITH YEH FINAL FORM
  FDB8 ARABIC LIGATURE :NOON WITH JEEM WITH HAH INITIAL FORM;MEEM WITH KHAH WITH YEH FINAL FORM
  FDBA ARABIC LIGATURE :LAM WITH JEEM WITH MEEM INITIAL FORM;KAF WITH MEEM WITH MEEM FINAL FORM
  FDBC ARABIC LIGATURE :LAM WITH JEEM WITH MEEM FINAL FORM;NOON WITH JEEM WITH HAH FINAL FORM
  FDBE ARABIC LIGATURE :JEEM WITH HAH WITH YEH FINAL FORM;HAH WITH JEEM WITH YEH FINAL FORM
  FDC0 ARABIC LIGATURE :MEEM WITH JEEM WITH YEH FINAL FORM;FEH WITH MEEM WITH YEH FINAL FORM
  FDC2 ARABIC LIGATURE :BEH WITH HAH WITH YEH FINAL FORM;KAF WITH MEEM WITH MEEM INITIAL FORM
  FDC4 ARABIC LIGATURE :AIN WITH JEEM WITH MEEM INITIAL FORM;SAD WITH MEEM WITH MEEM INITIAL FORM
  FDC6 ARABIC LIGATURE :SEEN WITH KHAH WITH YEH FINAL FORM;NOON WITH JEEM WITH YEH FINAL FORM
  FDCF :ARABIC LIGATURE SALAAMUHU ALAYNAA
  FDF0 :ARABIC LIGATURE SALLA USED AS KORANIC STOP SIGN ISOLATED FORM
  FDF1 ARABIC LIGATURE :QALA USED AS KORANIC STOP SIGN ISOLATED FORM;ALLAH ISOLATED FORM;AKBAR ISOLATED FORM
  FDF4 ARABIC LIGATURE :MOHAMMAD ISOLATED FORM;SALAM ISOLATED FORM;RASOUL ISOLATED FORM;ALAYHE ISOLATED FORM
  FDF8 ARABIC LIGATURE :WASALLAM ISOLATED FORM;SALLA ISOLATED FORM;SALLALLAHOU ALAYHE WASALLAM;JALLAJALALOUHOU
  FDFC :RIAL SIGN
  FDFD ARABIC LIGATURE :BISMILLAH AR-RAHMAN AR-RAHEEM;SUBHAANAHU WA TAAALAA;AZZA WA JALL
  FE00 VARIATION SELECTOR-:1;2;3;4;5;6;7;8;9;10;11;12;13;14;15;16
  FE10 PRESENTATION FORM FOR VERTICAL :COMMA;IDEOGRAPHIC COMMA;IDEOGRAPHIC FULL STOP
  FE13 PRESENTATION FORM FOR VERTICAL :COLON;SEMICOLON;EXCLAMATION MARK;QUESTION MARK;LEFT WHITE LENTICULAR BRACKET
  FE18 PRESENTATION FORM FOR VERTICAL :RIGHT WHITE LENTICULAR BRAKCET;HORIZONTAL ELLIPSIS
  FE20 COMBINING LIGATURE :LEFT HALF;RIGHT HALF
  FE22 COMBINING DOUBLE TILDE :LEFT HALF;RIGHT HALF
  FE24 COMBINING MACRON :LEFT HALF;RIGHT HALF
  FE26 COMBINING :CONJOINING MACRON;LIGATURE LEFT HALF BELOW;LIGATURE RIGHT HALF BELOW;TILDE LEFT HALF BELOW
  FE2A COMBINING :TILDE RIGHT HALF BELOW;MACRON LEFT HALF BELOW;MACRON RIGHT HALF BELOW;CONJOINING MACRON BELOW
  FE2E COMBINING CYRILLIC TITLO :LEFT HALF;RIGHT HALF
  FE30 PRESENTATION FORM FOR VERTICAL :TWO DOT LEADER;EM DASH;EN DASH
  FE33 PRESENTATION FORM FOR VERTICAL :LOW LINE;WAVY LOW LINE;LEFT PARENTHESIS;RIGHT PARENTHESIS;LEFT CURLY BRACKET
  FE38 PRESENTATION FORM FOR VERTICAL :RIGHT CURLY BRACKET;LEFT TORTOISE SHELL BRACKET;RIGHT TORTOISE SHELL BRACKET
  FE3B PRESENTATION FORM FOR VERTICAL :LEFT BLACK LENTICULAR BRACKET;RIGHT BLACK LENTICULAR BRACKET
  FE3D PRESENTATION FORM FOR VERTICAL :LEFT DOUBLE ANGLE BRACKET;RIGHT DOUBLE ANGLE BRACKET
  FE3F PRESENTATION FORM FOR VERTICAL :LEFT ANGLE BRACKET;RIGHT ANGLE BRACKET;LEFT CORNER BRACKET
  FE42 PRESENTATION FORM FOR VERTICAL :RIGHT CORNER BRACKET;LEFT WHITE CORNER BRACKET;RIGHT WHITE CORNER BRACKET
  FE45 :SESAME DOT;WHITE SESAME DOT
  FE47 PRESENTATION FORM FOR VERTICAL :LEFT SQUARE BRACKET;RIGHT SQUARE BRACKET
  FE49 :DASHED OVERLINE
  FE4A :CENTRELINE OVERLINE;WAVY OVERLINE;DOUBLE WAVY OVERLINE;DASHED LOW LINE;CENTRELINE LOW LINE;WAVY LOW LINE
  FE50 SMALL :COMMA;IDEOGRAPHIC COMMA;FULL STOP
  FE54 SMALL :SEMICOLON;COLON;QUESTION MARK;EXCLAMATION MARK;EM DASH;LEFT PARENTHESIS;RIGHT PARENTHESIS
  FE5B SMALL :LEFT CURLY BRACKET;RIGHT CURLY BRACKET;LEFT TORTOISE SHELL BRACKET;RIGHT TORTOISE SHELL BRACKET
  FE5F SMALL :NUMBER SIGN;AMPERSAND;ASTERISK;PLUS SIGN;HYPHEN-MINUS;LESS-THAN SIGN;GREATER-THAN SIGN;EQUALS SIGN
  FE68 SMALL :REVERSE SOLIDUS;DOLLAR SIGN;PERCENT SIGN;COMMERCIAL AT
  FE70 :ARABIC FATHATAN ISOLATED FORM
  FE71 ARABIC :TATWEEL WITH FATHATAN ABOVE;DAMMATAN ISOLATED FORM;TAIL FRAGMENT;KASRATAN ISOLATED FORM
  FE76 ARABIC FATHA :ISOLATED FORM;MEDIAL FORM
  FE78 ARABIC :DAMMA ISOLATED FORM;DAMMA MEDIAL FORM;KASRA ISOLATED FORM;KASRA MEDIAL FORM;SHADDA ISOLATED FORM
  FE7D ARABIC :SHADDA MEDIAL FORM;SUKUN ISOLATED FORM;SUKUN MEDIAL FORM;LETTER HAMZA ISOLATED FORM
  FE81 ARABIC LETTER ALEF WITH MADDA ABOVE :ISOLATED FORM;FINAL FORM
  FE83 ARABIC LETTER ALEF WITH HAMZA ABOVE :ISOLATED FORM;FINAL FORM
  FE85 ARABIC LETTER WAW WITH HAMZA ABOVE :ISOLATED FORM;FINAL FORM
  FE87 ARABIC LETTER ALEF WITH HAMZA BELOW :ISOLATED FORM;FINAL FORM
  FE89 ARABIC LETTER YEH WITH HAMZA ABOVE :ISOLATED FORM;FINAL FORM;INITIAL FORM;MEDIAL FORM
  FE8D ARABIC LETTER ALEF :ISOLATED FORM;FINAL FORM
  FE8F ARABIC LETTER BEH :ISOLATED FORM;FINAL FORM;INITIAL FORM;MEDIAL FORM
  FE93 ARABIC LETTER TEH :MARBUTA ISOLATED FORM;MARBUTA FINAL FORM;ISOLATED FORM;FINAL FORM;INITIAL FORM;MEDIAL FORM
  FE99 ARABIC LETTER THEH :ISOLATED FORM;FINAL FORM;INITIAL FORM;MEDIAL FORM
  FE9D ARABIC LETTER JEEM :ISOLATED FORM;FINAL FORM;INITIAL FORM;MEDIAL FORM
  FEA1 ARABIC LETTER HAH :ISOLATED FORM;FINAL FORM;INITIAL FORM;MEDIAL FORM
  FEA5 ARABIC LETTER KHAH :ISOLATED FORM;FINAL FORM;INITIAL FORM;MEDIAL FORM
  FEA9 ARABIC LETTER :DAL ISOLATED FORM;DAL FINAL FORM;THAL ISOLATED FORM
  FEAC ARABIC LETTER :THAL FINAL FORM;REH ISOLATED FORM;REH FINAL FORM;ZAIN ISOLATED FORM;ZAIN FINAL FORM
  FEB1 ARABIC LETTER SEEN :ISOLATED FORM;FINAL FORM;INITIAL FORM;MEDIAL FORM
  FEB5 ARABIC LETTER SHEEN :ISOLATED FORM;FINAL FORM;INITIAL FORM;MEDIAL FORM
  FEB9 ARABIC LETTER SAD :ISOLATED FORM;FINAL FORM;INITIAL FORM;MEDIAL FORM
  FEBD ARABIC LETTER DAD :ISOLATED FORM;FINAL FORM;INITIAL FORM;MEDIAL FORM
  FEC1 ARABIC LETTER TAH :ISOLATED FORM;FINAL FORM;INITIAL FORM;MEDIAL FORM
  FEC5 ARABIC LETTER ZAH :ISOLATED FORM;FINAL FORM;INITIAL FORM;MEDIAL FORM
  FEC9 ARABIC LETTER AIN :ISOLATED FORM;FINAL FORM;INITIAL FORM;MEDIAL FORM
  FECD ARABIC LETTER GHAIN :ISOLATED FORM;FINAL FORM;INITIAL FORM;MEDIAL FORM
  FED1 ARABIC LETTER FEH :ISOLATED FORM;FINAL FORM;INITIAL FORM;MEDIAL FORM
  FED5 ARABIC LETTER QAF :ISOLATED FORM;FINAL FORM;INITIAL FORM;MEDIAL FORM
  FED9 ARABIC LETTER KAF :ISOLATED FORM;FINAL FORM;INITIAL FORM;MEDIAL FORM
  FEDD ARABIC LETTER LAM :ISOLATED FORM;FINAL FORM;INITIAL FORM;MEDIAL FORM
  FEE1 ARABIC LETTER MEEM :ISOLATED FORM;FINAL FORM;INITIAL FORM;MEDIAL FORM
  FEE5 ARABIC LETTER NOON :ISOLATED FORM;FINAL FORM;INITIAL FORM;MEDIAL FORM
  FEE9 ARABIC LETTER HEH :ISOLATED FORM;FINAL FORM;INITIAL FORM;MEDIAL FORM
  FEED ARABIC LETTER :WAW ISOLATED FORM;WAW FINAL FORM;ALEF MAKSURA ISOLATED FORM;ALEF MAKSURA FINAL FORM
  FEF1 ARABIC LETTER YEH :ISOLATED FORM;FINAL FORM;INITIAL FORM;MEDIAL FORM
  FEF5 ARABIC LIGATURE LAM WITH ALEF WITH MADDA ABOVE :ISOLATED FORM;FINAL FORM
  FEF7 ARABIC LIGATURE LAM WITH ALEF WITH HAMZA :ABOVE ISOLATED FORM;ABOVE FINAL FORM;BELOW ISOLATED FORM
  FEFA ARABIC LIGATURE LAM WITH ALEF :WITH HAMZA BELOW FINAL FORM;ISOLATED FORM;FINAL FORM
  FEFF :ZERO WIDTH NO-BREAK SPACE
  FF01 FULLWIDTH :EXCLAMATION MARK;QUOTATION MARK;NUMBER SIGN;DOLLAR SIGN;PERCENT SIGN;AMPERSAND;APOSTROPHE
  FF08 FULLWIDTH :LEFT PARENTHESIS;RIGHT PARENTHESIS;ASTERISK;PLUS SIGN;COMMA;HYPHEN-MINUS;FULL STOP;SOLIDUS
  FF10 FULLWIDTH DIGIT :ZERO;ONE;TWO;THREE;FOUR;FIVE;SIX;SEVEN;EIGHT;NINE
  FF1A FULLWIDTH :COLON;SEMICOLON;LESS-THAN SIGN;EQUALS SIGN;GREATER-THAN SIGN;QUESTION MARK;COMMERCIAL AT
  FF21 FULLWIDTH LATIN CAPITAL LETTER :A;B;C;D;E;F;G;H;I;J;K;L;M;N;O;P;Q;R;S;T;U;V;W;X;Y;Z
  FF3B FULLWIDTH :LEFT SQUARE BRACKET;REVERSE SOLIDUS;RIGHT SQUARE BRACKET;CIRCUMFLEX ACCENT;LOW LINE;GRAVE ACCENT
  FF41 FULLWIDTH LATIN SMALL LETTER :A;B;C;D;E;F;G;H;I;J;K;L;M;N;O;P;Q;R;S;T;U;V;W;X;Y;Z
  FF5B :FULLWIDTH LEFT CURLY BRACKET
  FF5C FULLWIDTH :VERTICAL LINE;RIGHT CURLY BRACKET;TILDE;LEFT WHITE PARENTHESIS;RIGHT WHITE PARENTHESIS
  FF61 HALFWIDTH :IDEOGRAPHIC FULL STOP;LEFT CORNER BRACKET;RIGHT CORNER BRACKET;IDEOGRAPHIC COMMA
  FF65 HALFWIDTH KATAKANA :MIDDLE DOT;LETTER WO
  FF67 HALFWIDTH KATAKANA LETTER SMALL :A;I;U;E;O;YA;YU;YO;TU
  FF70 :HALFWIDTH KATAKANA-HIRAGANA PROLONGED SOUND MARK
  FF71 HALFWIDTH KATAKANA LETTER :A;I;U;E;O;KA;KI;KU;KE;KO;SA;SI;SU;SE;SO;TA;TI
  FF82 HALFWIDTH KATAKANA LETTER :TU;TE;TO;NA;NI;NU;NE;NO;HA;HI;HU;HE;HO;MA;MI;MU;ME;MO;YA;YU;YO;RA;RI;RU;RE;RO;WA;N
  FF9E HALFWIDTH :KATAKANA VOICED SOUND MARK;KATAKANA SEMI-VOICED SOUND MARK;HANGUL FILLER
  FFA1 HALFWIDTH HANGUL LETTER :KIYEOK;SSANGKIYEOK;KIYEOK-SIOS;NIEUN;NIEUN-CIEUC;NIEUN-HIEUH;TIKEUT;SSANGTIKEUT;RIEUL
  FFAA HALFWIDTH HANGUL LETTER RIEUL-:KIYEOK;MIEUM;PIEUP;SIOS;THIEUTH;PHIEUPH;HIEUH
  FFB1 HALFWIDTH HANGUL LETTER :MIEUM;PIEUP;SSANGPIEUP
  FFB4 HALFWIDTH HANGUL LETTER :PIEUP-SIOS;SIOS;SSANGSIOS;IEUNG;CIEUC;SSANGCIEUC;CHIEUCH;KHIEUKH;THIEUTH;PHIEUPH;HIEUH
  FFC2 HALFWIDTH HANGUL LETTER :A;AE;YA;YAE;EO;E
  FFCA HALFWIDTH HANGUL LETTER :YEO;YE;O;WA;WAE;OE
  FFD2 HALFWIDTH HANGUL LETTER :YO;U;WEO;WE;WI;YU
  FFDA HALFWIDTH HANGUL LETTER :EU;YI;I
  FFE0 FULLWIDTH :CENT SIGN;POUND SIGN;NOT SIGN;MACRON;BROKEN BAR;YEN SIGN;WON SIGN
  FFE8 :HALFWIDTH FORMS LIGHT VERTICAL
  FFE9 HALFWIDTH :LEFTWARDS ARROW;UPWARDS ARROW;RIGHTWARDS ARROW;DOWNWARDS ARROW;BLACK SQUARE;WHITE CIRCLE
  FFF9 INTERLINEAR ANNOTATION :ANCHOR;SEPARATOR;TERMINATOR
  FFFC :OBJECT REPLACEMENT CHARACTER;REPLACEMENT CHARACTER"

end BraceLink.Text
