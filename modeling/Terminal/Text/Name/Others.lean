namespace Terminal.Text.Name

/-- Further names of characters; one that has several comes several times. -/
def others : String := "=0;NULL;START OF HEADING;2TEXT;END OF TEXT;2TRANSMISSION;ENQUIRY;ACKNOWLEDGE;ALERT;BACKSPACE
CHARACTER TABULATION;LINE FEED;1TABULATION;FORM FEED;CARRIAGE RETURN;SHIFT OUT;1IN;DATA LINK ESCAPE
DEVICE CONTROL ONE;2TWO;2THREE;2FOUR;NEGATIVE ACKNOWLEDGE;SYNCHRONOUS IDLE;END OF TRANSMISSION BLOCK;CANCEL
END OF MEDIUM;SUBSTITUTE;ESCAPE;INFORMATION SEPARATOR FOUR;2THREE;2TWO;2ONE;SP;=7F;DELETE;PADDING CHARACTER
HIGH OCTET PRESET;BREAK PERMITTED HERE;NO BREAK HERE;INDEX;NEXT LINE;START OF SELECTED AREA
END OF SELECTED AREA;CHARACTER TABULATION SET;2WITH JUSTIFICATION;LINE TABULATION SET;PARTIAL LINE FORWARD
2BACKWARD;REVERSE LINE FEED;SINGLE SHIFT TWO;2THREE;DEVICE CONTROL STRING;PRIVATE USE ONE;2TWO
SET TRANSMIT STATE;CANCEL CHARACTER;MESSAGE WAITING;START OF GUARDED AREA;END OF GUARDED AREA
START OF STRING;SINGLE GRAPHIC CHARACTER INTRODUCER;1CHARACTER INTRODUCER;CONTROL SEQUENCE INTRODUCER
STRING TERMINATOR;OPERATING SYSTEM COMMAND;PRIVACY MESSAGE;APPLICATION PROGRAM COMMAND;NBSP;=AD;SHY;=1A2
LATIN CAPITAL LETTER GHA;1SMALL LETTER GHA;=34F;CGJ;=61C;ALM;=709;SYRIAC SUBLINEAR COLON SKEWED LEFT;=CDE
KANNADA LETTER LLLA;=E9D;LAO LETTER FO FON;=E9F;3FAY;=EA3;2RO;=EA5;2LO;=FD0
TIBETAN MARK BKA- SHOG GI MGO RGYAN;=11EC;HANGUL JONGSEONG YESIEUNG-KIYEOK;2YESIEUNG-SSANGKIYEOK
2SSANGYESIEUNG;2YESIEUNG-KHIEUKH;=180B;FVS1;FVS2;FVS3;MVS;FVS4;=200B;ZWSP;ZWNJ;ZWJ;LRM;RLM;=202A;LRE;RLE;PDF
LRO;RLO;NNBSP;=205F;MMSP;WJ;=2066;LRI;RLI;FSI;PDI;=2118;WEIERSTRASS ELLIPTIC FUNCTION;=2448
MICR ON US SYMBOL;1DASH SYMBOL;=2B7A;LEFTWARDS TRIANGLE-HEADED ARROW WITH DOUBLE VERTICAL STROKE;=2B7C
RIGHTWARDS TRIANGLE-HEADED ARROW WITH DOUBLE VERTICAL STROKE;=A015;YI SYLLABLE ITERATION MARK;=AA6E
MYANMAR LETTER KHAMTI LLA;=FE18;PRESENTATION FORM FOR VERTICAL RIGHT WHITE LENTICULAR BRACKET;=FEFF
BYTE ORDER MARK;=122D4;CUNEIFORM SIGN NU11 TENU;3OVER NU11 BUR OVER BUR;=16E56;MEDEFAIDRIN CAPITAL LETTER H
3NG;=16E76;1SMALL LETTER H;3NG;=1B001;HENTAIGANA LETTER E-1;=1D0C5
BYZANTINE MUSICAL SYMBOL FTHORA SKLIRON CHROMA VASIS
=0;NUL;SOH;STX;ETX;EOT;ENQ;ACK;BEL;BS;HORIZONTAL TABULATION;NEW LINE;VERTICAL TABULATION;FF;CR
LOCKING-SHIFT ONE;1ZERO;DLE;DC1;DC2;DC3;DC4;NAK;SYN;ETB;CAN;EOM;SUB;ESC;FILE SEPARATOR;GROUP SEPARATOR
RECORD SEPARATOR;UNIT SEPARATOR;=7F;DEL;PAD;HOP;BPH;NBH;IND;NEL;SSA;ESA;HORIZONTAL TABULATION SET
2WITH JUSTIFICATION;VERTICAL TABULATION SET;PARTIAL LINE DOWN;2UP;REVERSE INDEX;SINGLE-SHIFT-2
SINGLE-SHIFT-3;DCS;PRIVATE USE-1;1USE-2;STS;CCH;MW;START OF PROTECTED AREA;END OF PROTECTED AREA;SOS;SGC;SCI
CSI;ST;OSC;PM;APC;=FEFF;BOM
=9;HT;END OF LINE;VT;=E;SO;SI;=1C;FS;GS;RS;US;=88;HTS;HTJ;VTS;PLD;PLU;RI;SS2;SS3;=91;PU1;PU2;=96;SPA;EPA
=FEFF;ZWNBSP
=9;TAB;EOL
=A;LF
=A;NL"

end Terminal.Text.Name
