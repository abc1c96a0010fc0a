/-!
Other names of characters: those of control characters, which have none of their own, corrections
and abbreviations.
-/
namespace Conform.Text

/-- Lines of names, each with the number of its first character. -/
def otherNames : String := "0 0NULL;0START OF HEADING;0START OF TEXT;0END OF TEXT;0END OF TRANSMISSION;0ENQUIRY;0ACKNOWLEDGE
7 0ALERT;0BACKSPACE;0CHARACTER TABULATION;0LINE FEED;0LINE TABULATION;0FORM FEED
d 0CARRIAGE RETURN;0SHIFT OUT;0SHIFT IN;0DATA LINK ESCAPE;0DEVICE CONTROL ONE
12 0DEVICE CONTROL TWO;0DEVICE CONTROL THREE;0DEVICE CONTROL FOUR;0NEGATIVE ACKNOWLEDGE
16 0SYNCHRONOUS IDLE;0END OF TRANSMISSION BLOCK;0CANCEL;0END OF MEDIUM;0SUBSTITUTE;0ESCAPE
1c 0INFORMATION SEPARATOR FOUR;0INFORMATION SEPARATOR THREE;0INFORMATION SEPARATOR TWO
1f 0INFORMATION SEPARATOR ONE;0SP
7f 0DELETE;0PADDING CHARACTER;0HIGH OCTET PRESET;0BREAK PERMITTED HERE;0NO BREAK HERE;0INDEX
85 0NEXT LINE;0START OF SELECTED AREA;0END OF SELECTED AREA;0CHARACTER TABULATION SET
89 0CHARACTER TABULATION WITH JUSTIFICATION;0LINE TABULATION SET;0PARTIAL LINE FORWARD
8c 0PARTIAL LINE BACKWARD;0REVERSE LINE FEED;0SINGLE SHIFT TWO;0SINGLE SHIFT THREE
90 0DEVICE CONTROL STRING;0PRIVATE USE ONE;0PRIVATE USE TWO;0SET TRANSMIT STATE
94 0CANCEL CHARACTER;0MESSAGE WAITING;0START OF GUARDED AREA;0END OF GUARDED AREA
98 0START OF STRING;0SINGLE GRAPHIC CHARACTER INTRODUCER;0SINGLE CHARACTER INTRODUCER
9b 0CONTROL SEQUENCE INTRODUCER;0STRING TERMINATOR;0OPERATING SYSTEM COMMAND;0PRIVACY MESSAGE
9f 0APPLICATION PROGRAM COMMAND;0NBSP
ad 0SHY
1a2 0LATIN CAPITAL LETTER GHA;0LATIN SMALL LETTER GHA
34f 0CGJ
61c 0ALM
709 0SYRIAC SUBLINEAR COLON SKEWED LEFT
cde 0KANNADA LETTER LLLA
e9d 0LAO LETTER FO FON
e9f 0LAO LETTER FO FAY
ea3 0LAO LETTER RO
ea5 0LAO LETTER LO
fd0 0TIBETAN MARK BKA- SHOG GI MGO RGYAN
11ec 0HANGUL JONGSEONG YESIEUNG-KIYEOK;0HANGUL JONGSEONG YESIEUNG-SSANGKIYEOK
11ee 0HANGUL JONGSEONG SSANGYESIEUNG;0HANGUL JONGSEONG YESIEUNG-KHIEUKH
180b 0FVS1;0FVS2;0FVS3;0MVS;0FVS4
200b 0ZWSP;0ZWNJ;0ZWJ;0LRM;0RLM
202a 0LRE;0RLE;0PDF;0LRO;0RLO;0NNBSP
205f 0MMSP;0WJ
2066 0LRI;0RLI;0FSI;0PDI
2118 0WEIERSTRASS ELLIPTIC FUNCTION
2448 0MICR ON US SYMBOL;0MICR DASH SYMBOL
2b7a 0LEFTWARDS TRIANGLE-HEADED ARROW WITH DOUBLE VERTICAL STROKE
2b7c 0RIGHTWARDS TRIANGLE-HEADED ARROW WITH DOUBLE VERTICAL STROKE
a015 0YI SYLLABLE ITERATION MARK
aa6e 0MYANMAR LETTER KHAMTI LLA
fe00 0VS1;0VS2;0VS3;0VS4;0VS5;0VS6;0VS7;0VS8;0VS9;0VS10;0VS11;0VS12;0VS13;0VS14;0VS15;0VS16
fe18 0PRESENTATION FORM FOR VERTICAL RIGHT WHITE LENTICULAR BRACKET
feff 0BYTE ORDER MARK
122d4 0CUNEIFORM SIGN NU11 TENU;0CUNEIFORM SIGN NU11 OVER NU11 BUR OVER BUR
16e56 0MEDEFAIDRIN CAPITAL LETTER H;0MEDEFAIDRIN CAPITAL LETTER NG
16e76 0MEDEFAIDRIN SMALL LETTER H;0MEDEFAIDRIN SMALL LETTER NG
1b001 0HENTAIGANA LETTER E-1
1d0c5 0BYZANTINE MUSICAL SYMBOL FTHORA SKLIRON CHROMA VASIS
e0100 0VS17;0VS18;0VS19;0VS20;0VS21;0VS22;0VS23;0VS24;0VS25;0VS26;0VS27;0VS28;0VS29;0VS30;0VS31
e010f 0VS32;0VS33;0VS34;0VS35;0VS36;0VS37;0VS38;0VS39;0VS40;0VS41;0VS42;0VS43;0VS44;0VS45;0VS46
e011e 0VS47;0VS48;0VS49;0VS50;0VS51;0VS52;0VS53;0VS54;0VS55;0VS56;0VS57;0VS58;0VS59;0VS60;0VS61
e012d 0VS62;0VS63;0VS64;0VS65;0VS66;0VS67;0VS68;0VS69;0VS70;0VS71;0VS72;0VS73;0VS74;0VS75;0VS76
e013c 0VS77;0VS78;0VS79;0VS80;0VS81;0VS82;0VS83;0VS84;0VS85;0VS86;0VS87;0VS88;0VS89;0VS90;0VS91
e014b 0VS92;0VS93;0VS94;0VS95;0VS96;0VS97;0VS98;0VS99;0VS100;0VS101;0VS102;0VS103;0VS104;0VS105
e0159 0VS106;0VS107;0VS108;0VS109;0VS110;0VS111;0VS112;0VS113;0VS114;0VS115;0VS116;0VS117;0VS118
e0166 0VS119;0VS120;0VS121;0VS122;0VS123;0VS124;0VS125;0VS126;0VS127;0VS128;0VS129;0VS130;0VS131
e0173 0VS132;0VS133;0VS134;0VS135;0VS136;0VS137;0VS138;0VS139;0VS140;0VS141;0VS142;0VS143;0VS144
e0180 0VS145;0VS146;0VS147;0VS148;0VS149;0VS150;0VS151;0VS152;0VS153;0VS154;0VS155;0VS156;0VS157
e018d 0VS158;0VS159;0VS160;0VS161;0VS162;0VS163;0VS164;0VS165;0VS166;0VS167;0VS168;0VS169;0VS170
e019a 0VS171;0VS172;0VS173;0VS174;0VS175;0VS176;0VS177;0VS178;0VS179;0VS180;0VS181;0VS182;0VS183
e01a7 0VS184;0VS185;0VS186;0VS187;0VS188;0VS189;0VS190;0VS191;0VS192;0VS193;0VS194;0VS195;0VS196
e01b4 0VS197;0VS198;0VS199;0VS200;0VS201;0VS202;0VS203;0VS204;0VS205;0VS206;0VS207;0VS208;0VS209
e01c1 0VS210;0VS211;0VS212;0VS213;0VS214;0VS215;0VS216;0VS217;0VS218;0VS219;0VS220;0VS221;0VS222
e01ce 0VS223;0VS224;0VS225;0VS226;0VS227;0VS228;0VS229;0VS230;0VS231;0VS232;0VS233;0VS234;0VS235
e01db 0VS236;0VS237;0VS238;0VS239;0VS240;0VS241;0VS242;0VS243;0VS244;0VS245;0VS246;0VS247;0VS248
e01e8 0VS249;0VS250;0VS251;0VS252;0VS253;0VS254;0VS255;0VS256
0 0NUL;0SOH;0STX;0ETX;0EOT;0ENQ;0ACK;0BEL;0BS;0HORIZONTAL TABULATION;0NEW LINE
b 0VERTICAL TABULATION;0FF;0CR;0LOCKING-SHIFT ONE;0LOCKING-SHIFT ZERO;0DLE;0DC1;0DC2;0DC3;0DC4
15 0NAK;0SYN;0ETB;0CAN;0EOM;0SUB;0ESC;0FILE SEPARATOR;0GROUP SEPARATOR;0RECORD SEPARATOR
1f 0UNIT SEPARATOR
7f 0DEL;0PAD;0HOP;0BPH;0NBH;0IND;0NEL;0SSA;0ESA;0HORIZONTAL TABULATION SET
89 0HORIZONTAL TABULATION WITH JUSTIFICATION;0VERTICAL TABULATION SET;0PARTIAL LINE DOWN
8c 0PARTIAL LINE UP;0REVERSE INDEX;0SINGLE-SHIFT-2;0SINGLE-SHIFT-3;0DCS;0PRIVATE USE-1
92 0PRIVATE USE-2;0STS;0CCH;0MW;0START OF PROTECTED AREA;0END OF PROTECTED AREA;0SOS;0SGC;0SCI
9b 0CSI;0ST;0OSC;0PM;0APC
feff 0BOM
9 0HT;0END OF LINE;0VT
e 0SO;0SI
1c 0FS;0GS;0RS;0US
88 0HTS;0HTJ;0VTS;0PLD;0PLU;0RI;0SS2;0SS3
91 0PU1;0PU2
96 0SPA;0EPA
feff 0ZWNBSP
9 0TAB;0LF
a 0NL
a 0EOL"

end Conform.Text
