import BraceLink.Text.Basic
import BraceLink.Text.CharacterName.Scripts
import BraceLink.Text.CharacterName.Supplement
import BraceLink.Text.CharacterName.Symbols

/-!
# Names of characters

The character that a name of the character database, version 14, stands for. Most names are listed in tables;
the names of ideographs and of Korean syllables follow rules. Case does not matter in a listed name.
-/

namespace BraceLink.Text

/-- Second names of characters, control characters among them, as a table like those of the first names. -/
def secondNames : String := "
  0 :NULL
  1 START OF :HEADING;TEXT
  3 END OF :TEXT;TRANSMISSION
  5 :ENQUIRY
  6 :ACKNOWLEDGE;ALERT;BACKSPACE;HORIZONTAL TABULATION;END OF LINE;VERTICAL TABULATION;FORM FEED;CARRIAGE RETURN
  E LOCKING-SHIFT :ONE;ZERO
  10 :DATA LINK ESCAPE
  11 DEVICE CONTROL :ONE;TWO;THREE;FOUR
  15 :NEGATIVE ACKNOWLEDGE;SYNCHRONOUS IDLE;END OF TRANSMISSION BLOCK;CANCEL;END OF MEDIUM;SUBSTITUTE;ESCAPE
  1C INFORMATION SEPARATOR :FOUR;THREE;TWO;ONE
  20 :SP
  7F :DELETE;PADDING CHARACTER
  81 :HIGH OCTET PRESET;BREAK PERMITTED HERE;NO BREAK HERE;INDEX;NEXT LINE;START OF SELECTED AREA;END OF SELECTED AREA
  88 HORIZONTAL TABULATION :SET;WITH JUSTIFICATION
  8A :VERTICAL TABULATION SET
  8B PARTIAL LINE :FORWARD;BACKWARD
  8D :REVERSE LINE FEED
  8E SINGLE SHIFT :TWO;THREE
  90 :DEVICE CONTROL STRING
  91 PRIVATE USE :ONE;TWO
  93 :SET TRANSMIT STATE;CANCEL CHARACTER;MESSAGE WAITING;START OF PROTECTED AREA;END OF PROTECTED AREA
  98 :START OF STRING;SINGLE GRAPHIC CHARACTER INTRODUCER;SINGLE CHARACTER INTRODUCER;CONTROL SEQUENCE INTRODUCER
  9C :STRING TERMINATOR;OPERATING SYSTEM COMMAND;PRIVACY MESSAGE;APPLICATION PROGRAM COMMAND;NBSP
  AD :SHY
  1A2 LATIN :CAPITAL LETTER GHA;SMALL LETTER GHA
  34F :CGJ
  61C :ALM
  709 :SYRIAC SUBLINEAR COLON SKEWED LEFT
  CDE :KANNADA LETTER LLLA
  E9D :LAO LETTER FO FON
  E9F :LAO LETTER FO FAY
  EA3 :LAO LETTER RO
  EA5 :LAO LETTER LO
  FD0 :TIBETAN MARK BKA- SHOG GI MGO RGYAN
  11EC HANGUL JONGSEONG :YESIEUNG-KIYEOK;YESIEUNG-SSANGKIYEOK;SSANGYESIEUNG;YESIEUNG-KHIEUKH
  180B :FVS1;FVS2;FVS3;MVS;FVS4
  200B :ZWSP;ZWNJ;ZWJ;LRM;RLM
  202A :LRE;RLE;PDF;LRO;RLO;NNBSP
  205F :MMSP;WJ
  2066 :LRI;RLI;FSI;PDI
  2118 :WEIERSTRASS ELLIPTIC FUNCTION
  2448 MICR :ON US SYMBOL;DASH SYMBOL
  2B7A :LEFTWARDS TRIANGLE-HEADED ARROW WITH DOUBLE VERTICAL STROKE
  2B7C :RIGHTWARDS TRIANGLE-HEADED ARROW WITH DOUBLE VERTICAL STROKE
  A015 :YI SYLLABLE ITERATION MARK
  AA6E :MYANMAR LETTER KHAMTI LLA
  FE18 :PRESENTATION FORM FOR VERTICAL RIGHT WHITE LENTICULAR BRACKET
  FEFF :BYTE ORDER MARK
  122D4 CUNEIFORM SIGN NU11 :TENU;OVER NU11 BUR OVER BUR
  16E56 MEDEFAIDRIN CAPITAL LETTER :H;NG
  16E76 MEDEFAIDRIN SMALL LETTER :H;NG
  1B001 :HENTAIGANA LETTER E-1
  1D0C5 :BYZANTINE MUSICAL SYMBOL FTHORA SKLIRON CHROMA VASIS
  0 :NUL;SOH;STX;ETX;EOT;ENQ;ACK;BEL;BS;CHARACTER TABULATION;LINE FEED;LINE TABULATION;FF;CR
  E SHIFT :OUT;IN
  10 :DLE;DC1;DC2;DC3;DC4;NAK;SYN;ETB;CAN;EOM;SUB;ESC;FILE SEPARATOR;GROUP SEPARATOR;RECORD SEPARATOR;UNIT SEPARATOR
  7F :DEL;PAD;HOP;BPH;NBH;IND;NEL;SSA;ESA
  88 CHARACTER TABULATION :SET;WITH JUSTIFICATION
  8A :LINE TABULATION SET
  8B PARTIAL LINE :DOWN;UP
  8D :REVERSE INDEX
  8E SINGLE-SHIFT-:2;3
  90 :DCS
  91 PRIVATE USE-:1;2
  93 :STS;CCH;MW;START OF GUARDED AREA;END OF GUARDED AREA;SOS;SGC;SCI;CSI;ST;OSC;PM;APC
  FEFF :ZWNBSP
  9 :TAB;NEW LINE;VT
  E :SO;SI
  1C :FS;GS;RS;US
  88 :HTS;HTJ;VTS;PLD;PLU;RI;SS2;SS3
  91 :PU1;PU2
  96 :SPA;EPA
  FEFF :BOM
  9 :HT;EOL
  A :LF
  A :NL
  FE00 :VS1;VS2;VS3;VS4;VS5;VS6;VS7;VS8;VS9;VS10;VS11;VS12;VS13;VS14;VS15;VS16
  E0100 :VS17;VS18;VS19;VS20;VS21;VS22;VS23;VS24;VS25;VS26;VS27
  E010B :VS28;VS29;VS30;VS31;VS32;VS33;VS34;VS35;VS36;VS37;VS38;VS39;VS40;VS41;VS42;VS43;VS44;VS45;VS46;VS47;VS48;VS49
  E0121 :VS50;VS51;VS52;VS53;VS54;VS55;VS56;VS57;VS58;VS59;VS60;VS61;VS62;VS63;VS64;VS65;VS66;VS67;VS68;VS69;VS70;VS71
  E0137 :VS72;VS73;VS74;VS75;VS76;VS77;VS78;VS79;VS80;VS81;VS82;VS83;VS84;VS85;VS86;VS87;VS88;VS89;VS90;VS91;VS92;VS93
  E014D :VS94;VS95;VS96;VS97;VS98;VS99;VS100;VS101;VS102;VS103;VS104;VS105;VS106;VS107;VS108;VS109;VS110;VS111;VS112
  E0160 :VS113;VS114;VS115;VS116;VS117;VS118;VS119;VS120;VS121;VS122;VS123;VS124;VS125;VS126;VS127;VS128;VS129;VS130
  E0172 :VS131;VS132;VS133;VS134;VS135;VS136;VS137;VS138;VS139;VS140;VS141;VS142;VS143;VS144;VS145;VS146;VS147;VS148
  E0184 :VS149;VS150;VS151;VS152;VS153;VS154;VS155;VS156;VS157;VS158;VS159;VS160;VS161;VS162;VS163;VS164;VS165;VS166
  E0196 :VS167;VS168;VS169;VS170;VS171;VS172;VS173;VS174;VS175;VS176;VS177;VS178;VS179;VS180;VS181;VS182;VS183;VS184
  E01A8 :VS185;VS186;VS187;VS188;VS189;VS190;VS191;VS192;VS193;VS194;VS195;VS196;VS197;VS198;VS199;VS200;VS201;VS202
  E01BA :VS203;VS204;VS205;VS206;VS207;VS208;VS209;VS210;VS211;VS212;VS213;VS214;VS215;VS216;VS217;VS218;VS219;VS220
  E01CC :VS221;VS222;VS223;VS224;VS225;VS226;VS227;VS228;VS229;VS230;VS231;VS232;VS233;VS234;VS235;VS236;VS237;VS238
  E01DE :VS239;VS240;VS241;VS242;VS243;VS244;VS245;VS246;VS247;VS248;VS249;VS250;VS251;VS252;VS253;VS254;VS255;VS256"

def nameLines : List String :=
  [scriptNames, symbolNames, supplementNames, secondNames].flatMap fun table => table.splitOn "\n"

/-- The code point that a line of a table gives to the name. -/
def codeIn? (name line : Text) : Option Nat := do
  let (code, rest) := cut ' ' (line.dropWhile fun c => c = ' ')
  let (lead, ends) := cut ':' (← rest)
  let own ← dropPrefix? lead name
  let i ← (splitOn ';' (← ends)).idxOf? own
  return hexNumber code + i

/-- Characters that are named by their code points, from the first to the last one. -/
def codedNames : List (String × Nat × Nat) :=
  [("CJK COMPATIBILITY IDEOGRAPH-", 0xF900, 0xFA6D), ("CJK COMPATIBILITY IDEOGRAPH-", 0xFA70, 0xFAD9),
   ("KHITAN SMALL SCRIPT CHARACTER-", 0x18B00, 0x18CD5), ("NUSHU CHARACTER-", 0x1B170, 0x1B2FB),
   ("CJK COMPATIBILITY IDEOGRAPH-", 0x2F800, 0x2FA1D)]

/-- The code point that is its own name behind a known beginning. -/
def ownCode? (name : Text) : Option Nat :=
  codedNames.findSome? fun (lead, first, last) => do
    let digits ← dropPrefix? lead name
    let code := hexNumber digits
    if digits = (hex 4 code).map Char.toUpper && first ≤ code && code ≤ last then some code else none

def ideographRuns : List (Nat × Nat) :=
  [(0x3400, 0x4DBF), (0x4E00, 0x9FFF), (0x20000, 0x2A6DF), (0x2A700, 0x2B738), (0x2B740, 0x2B81D),
   (0x2B820, 0x2CEA1), (0x2CEB0, 0x2EBE0), (0x30000, 0x3134A)]

/-- The unified ideograph that is named by four or five digits in capitals. -/
def ideograph? (name : Text) : Option Nat := do
  let digits ← dropPrefix? "CJK UNIFIED IDEOGRAPH-" name
  let isDigit (c : Char) : Bool := c.isDigit || ('A' ≤ c && c ≤ 'F')
  let code := hexNumber digits
  if (digits.length = 4 || digits.length = 5) && digits.all isDigit &&
      ideographRuns.any fun (first, last) => first ≤ code && code ≤ last then
    some code
  else none

/-- The first letters of Korean syllables. -/
def leadingLetters : List String :=
  ["G", "GG", "N", "D", "DD", "R", "M", "B", "BB", "S", "SS", "", "J", "JJ", "C", "K", "T", "P", "H"]

/-- The vowels of Korean syllables. -/
def vowels : List String :=
  ["A", "AE", "YA", "YAE", "EO", "E", "YEO", "YE", "O", "WA", "WAE", "OE", "YO", "U", "WEO", "WE", "WI",
   "YU", "EU", "YI", "I"]

/-- The last letters of Korean syllables. -/
def trailingLetters : List String :=
  ["", "G", "GG", "GS", "N", "NJ", "NH", "D", "L", "LG", "LM", "LB", "LS", "LT", "LP", "LH", "M", "B", "BS",
   "S", "SS", "NG", "J", "C", "K", "T", "P", "H"]

/-- The number of the longest part that the text begins with, and the text after it. -/
def longestPart? (parts : List String) (text : Text) : Option (Nat × Text) :=
  parts.zipIdx.foldl (fun best (part, i) =>
    match dropPrefix? part text, best with
    | none, _ => best
    | some rest, none => some (i, rest)
    | some rest, some (_, least) => if rest.length < least.length then some (i, rest) else best) none

/-- The Korean syllable that is named by its letters. -/
def syllable? (name : Text) : Option Nat := do
  let letters ← dropPrefix? "HANGUL SYLLABLE " name
  let (leading, rest) ← longestPart? leadingLetters letters
  let (vowel, rest) ← longestPart? vowels rest
  let (trailing, rest) ← longestPart? trailingLetters rest
  if rest.isEmpty then
    some (0xAC00 + (leading * vowels.length + vowel) * trailingLetters.length + trailing)
  else none

def namedCharacter? (name : Text) : Option Char :=
  let known := name.map Char.toUpper
  (((syllable? name).or (ideograph? name)).or (ownCode? known)).or
    (nameLines.findSome? fun (line : String) => codeIn? known line) |>.map Char.ofNat

end BraceLink.Text
