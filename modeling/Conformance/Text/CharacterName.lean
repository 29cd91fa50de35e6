/-!
# Characters by name

The names that characters have in the character standard, with their aliases, for the blocks that
texts in European scripts draw on, and the two families of names that follow a rule: ideographs
are numbered and Korean syllables are spelled by their sounds. Letters of either case are the same
in a name from the tables.
-/

namespace Conformance.Text

def basicLatinNames : String := String.join [
  "SPACE;EXCLAMATION MARK;QUOTATION MARK;NUMBER SIGN;DOLLAR SIGN;PERCENT SIGN;AMPERSAND;",
  "APOSTROPHE;LEFT PARENTHESIS;RIGHT PARENTHESIS;ASTERISK;PLUS SIGN;COMMA;HYPHEN-MINUS;FULL STOP;",
  "SOLIDUS;DIGIT ZERO;DIGIT ONE;DIGIT TWO;DIGIT THREE;DIGIT FOUR;DIGIT FIVE;DIGIT SIX;DIGIT ",
  "SEVEN;DIGIT EIGHT;DIGIT NINE;COLON;SEMICOLON;LESS-THAN SIGN;EQUALS SIGN;GREATER-THAN SIGN;",
  "QUESTION MARK;COMMERCIAL AT;LATIN CAPITAL LETTER A;LATIN CAPITAL LETTER B;LATIN CAPITAL LETTER ",
  "C;LATIN CAPITAL LETTER D;LATIN CAPITAL LETTER E;LATIN CAPITAL LETTER F;LATIN CAPITAL LETTER G;",
  "LATIN CAPITAL LETTER H;LATIN CAPITAL LETTER I;LATIN CAPITAL LETTER J;LATIN CAPITAL LETTER K;",
  "LATIN CAPITAL LETTER L;LATIN CAPITAL LETTER M;LATIN CAPITAL LETTER N;LATIN CAPITAL LETTER O;",
  "LATIN CAPITAL LETTER P;LATIN CAPITAL LETTER Q;LATIN CAPITAL LETTER R;LATIN CAPITAL LETTER S;",
  "LATIN CAPITAL LETTER T;LATIN CAPITAL LETTER U;LATIN CAPITAL LETTER V;LATIN CAPITAL LETTER W;",
  "LATIN CAPITAL LETTER X;LATIN CAPITAL LETTER Y;LATIN CAPITAL LETTER Z;LEFT SQUARE BRACKET;",
  "REVERSE SOLIDUS;RIGHT SQUARE BRACKET;CIRCUMFLEX ACCENT;LOW LINE;GRAVE ACCENT;LATIN SMALL ",
  "LETTER A;LATIN SMALL LETTER B;LATIN SMALL LETTER C;LATIN SMALL LETTER D;LATIN SMALL LETTER E;",
  "LATIN SMALL LETTER F;LATIN SMALL LETTER G;LATIN SMALL LETTER H;LATIN SMALL LETTER I;LATIN ",
  "SMALL LETTER J;LATIN SMALL LETTER K;LATIN SMALL LETTER L;LATIN SMALL LETTER M;LATIN SMALL ",
  "LETTER N;LATIN SMALL LETTER O;LATIN SMALL LETTER P;LATIN SMALL LETTER Q;LATIN SMALL LETTER R;",
  "LATIN SMALL LETTER S;LATIN SMALL LETTER T;LATIN SMALL LETTER U;LATIN SMALL LETTER V;LATIN ",
  "SMALL LETTER W;LATIN SMALL LETTER X;LATIN SMALL LETTER Y;LATIN SMALL LETTER Z;LEFT CURLY ",
  "BRACKET;VERTICAL LINE;RIGHT CURLY BRACKET;TILDE"]

def latinNames : String := String.join [
  "NO-BREAK SPACE;INVERTED EXCLAMATION MARK;CENT SIGN;POUND SIGN;CURRENCY SIGN;YEN SIGN;BROKEN ",
  "BAR;SECTION SIGN;DIAERESIS;COPYRIGHT SIGN;FEMININE ORDINAL INDICATOR;LEFT-POINTING DOUBLE ",
  "ANGLE QUOTATION MARK;NOT SIGN;SOFT HYPHEN;REGISTERED SIGN;MACRON;DEGREE SIGN;PLUS-MINUS SIGN;",
  "SUPERSCRIPT TWO;SUPERSCRIPT THREE;ACUTE ACCENT;MICRO SIGN;PILCROW SIGN;MIDDLE DOT;CEDILLA;",
  "SUPERSCRIPT ONE;MASCULINE ORDINAL INDICATOR;RIGHT-POINTING DOUBLE ANGLE QUOTATION MARK;VULGAR ",
  "FRACTION ONE QUARTER;VULGAR FRACTION ONE HALF;VULGAR FRACTION THREE QUARTERS;INVERTED QUESTION ",
  "MARK;LATIN CAPITAL LETTER A WITH GRAVE;LATIN CAPITAL LETTER A WITH ACUTE;LATIN CAPITAL LETTER ",
  "A WITH CIRCUMFLEX;LATIN CAPITAL LETTER A WITH TILDE;LATIN CAPITAL LETTER A WITH DIAERESIS;",
  "LATIN CAPITAL LETTER A WITH RING ABOVE;LATIN CAPITAL LETTER AE;LATIN CAPITAL LETTER C WITH ",
  "CEDILLA;LATIN CAPITAL LETTER E WITH GRAVE;LATIN CAPITAL LETTER E WITH ACUTE;LATIN CAPITAL ",
  "LETTER E WITH CIRCUMFLEX;LATIN CAPITAL LETTER E WITH DIAERESIS;LATIN CAPITAL LETTER I WITH ",
  "GRAVE;LATIN CAPITAL LETTER I WITH ACUTE;LATIN CAPITAL LETTER I WITH CIRCUMFLEX;LATIN CAPITAL ",
  "LETTER I WITH DIAERESIS;LATIN CAPITAL LETTER ETH;LATIN CAPITAL LETTER N WITH TILDE;LATIN ",
  "CAPITAL LETTER O WITH GRAVE;LATIN CAPITAL LETTER O WITH ACUTE;LATIN CAPITAL LETTER O WITH ",
  "CIRCUMFLEX;LATIN CAPITAL LETTER O WITH TILDE;LATIN CAPITAL LETTER O WITH DIAERESIS;",
  "MULTIPLICATION SIGN;LATIN CAPITAL LETTER O WITH STROKE;LATIN CAPITAL LETTER U WITH GRAVE;LATIN ",
  "CAPITAL LETTER U WITH ACUTE;LATIN CAPITAL LETTER U WITH CIRCUMFLEX;LATIN CAPITAL LETTER U WITH ",
  "DIAERESIS;LATIN CAPITAL LETTER Y WITH ACUTE;LATIN CAPITAL LETTER THORN;LATIN SMALL LETTER ",
  "SHARP S;LATIN SMALL LETTER A WITH GRAVE;LATIN SMALL LETTER A WITH ACUTE;LATIN SMALL LETTER A ",
  "WITH CIRCUMFLEX;LATIN SMALL LETTER A WITH TILDE;LATIN SMALL LETTER A WITH DIAERESIS;LATIN ",
  "SMALL LETTER A WITH RING ABOVE;LATIN SMALL LETTER AE;LATIN SMALL LETTER C WITH CEDILLA;LATIN ",
  "SMALL LETTER E WITH GRAVE;LATIN SMALL LETTER E WITH ACUTE;LATIN SMALL LETTER E WITH ",
  "CIRCUMFLEX;LATIN SMALL LETTER E WITH DIAERESIS;LATIN SMALL LETTER I WITH GRAVE;LATIN SMALL ",
  "LETTER I WITH ACUTE;LATIN SMALL LETTER I WITH CIRCUMFLEX;LATIN SMALL LETTER I WITH DIAERESIS;",
  "LATIN SMALL LETTER ETH;LATIN SMALL LETTER N WITH TILDE;LATIN SMALL LETTER O WITH GRAVE;LATIN ",
  "SMALL LETTER O WITH ACUTE;LATIN SMALL LETTER O WITH CIRCUMFLEX;LATIN SMALL LETTER O WITH ",
  "TILDE;LATIN SMALL LETTER O WITH DIAERESIS;DIVISION SIGN;LATIN SMALL LETTER O WITH STROKE;LATIN ",
  "SMALL LETTER U WITH GRAVE;LATIN SMALL LETTER U WITH ACUTE;LATIN SMALL LETTER U WITH ",
  "CIRCUMFLEX;LATIN SMALL LETTER U WITH DIAERESIS;LATIN SMALL LETTER Y WITH ACUTE;LATIN SMALL ",
  "LETTER THORN;LATIN SMALL LETTER Y WITH DIAERESIS;LATIN CAPITAL LETTER A WITH MACRON;LATIN ",
  "SMALL LETTER A WITH MACRON;LATIN CAPITAL LETTER A WITH BREVE;LATIN SMALL LETTER A WITH BREVE;",
  "LATIN CAPITAL LETTER A WITH OGONEK;LATIN SMALL LETTER A WITH OGONEK;LATIN CAPITAL LETTER C ",
  "WITH ACUTE;LATIN SMALL LETTER C WITH ACUTE;LATIN CAPITAL LETTER C WITH CIRCUMFLEX;LATIN SMALL ",
  "LETTER C WITH CIRCUMFLEX;LATIN CAPITAL LETTER C WITH DOT ABOVE;LATIN SMALL LETTER C WITH DOT ",
  "ABOVE;LATIN CAPITAL LETTER C WITH CARON;LATIN SMALL LETTER C WITH CARON;LATIN CAPITAL LETTER D ",
  "WITH CARON;LATIN SMALL LETTER D WITH CARON;LATIN CAPITAL LETTER D WITH STROKE;LATIN SMALL ",
  "LETTER D WITH STROKE;LATIN CAPITAL LETTER E WITH MACRON;LATIN SMALL LETTER E WITH MACRON;LATIN ",
  "CAPITAL LETTER E WITH BREVE;LATIN SMALL LETTER E WITH BREVE;LATIN CAPITAL LETTER E WITH DOT ",
  "ABOVE;LATIN SMALL LETTER E WITH DOT ABOVE;LATIN CAPITAL LETTER E WITH OGONEK;LATIN SMALL ",
  "LETTER E WITH OGONEK;LATIN CAPITAL LETTER E WITH CARON;LATIN SMALL LETTER E WITH CARON;LATIN ",
  "CAPITAL LETTER G WITH CIRCUMFLEX;LATIN SMALL LETTER G WITH CIRCUMFLEX;LATIN CAPITAL LETTER G ",
  "WITH BREVE;LATIN SMALL LETTER G WITH BREVE;LATIN CAPITAL LETTER G WITH DOT ABOVE;LATIN SMALL ",
  "LETTER G WITH DOT ABOVE;LATIN CAPITAL LETTER G WITH CEDILLA;LATIN SMALL LETTER G WITH CEDILLA;",
  "LATIN CAPITAL LETTER H WITH CIRCUMFLEX;LATIN SMALL LETTER H WITH CIRCUMFLEX;LATIN CAPITAL ",
  "LETTER H WITH STROKE;LATIN SMALL LETTER H WITH STROKE;LATIN CAPITAL LETTER I WITH TILDE;LATIN ",
  "SMALL LETTER I WITH TILDE;LATIN CAPITAL LETTER I WITH MACRON;LATIN SMALL LETTER I WITH MACRON;",
  "LATIN CAPITAL LETTER I WITH BREVE;LATIN SMALL LETTER I WITH BREVE;LATIN CAPITAL LETTER I WITH ",
  "OGONEK;LATIN SMALL LETTER I WITH OGONEK;LATIN CAPITAL LETTER I WITH DOT ABOVE;LATIN SMALL ",
  "LETTER DOTLESS I;LATIN CAPITAL LIGATURE IJ;LATIN SMALL LIGATURE IJ;LATIN CAPITAL LETTER J WITH ",
  "CIRCUMFLEX;LATIN SMALL LETTER J WITH CIRCUMFLEX;LATIN CAPITAL LETTER K WITH CEDILLA;LATIN ",
  "SMALL LETTER K WITH CEDILLA;LATIN SMALL LETTER KRA;LATIN CAPITAL LETTER L WITH ACUTE;LATIN ",
  "SMALL LETTER L WITH ACUTE;LATIN CAPITAL LETTER L WITH CEDILLA;LATIN SMALL LETTER L WITH ",
  "CEDILLA;LATIN CAPITAL LETTER L WITH CARON;LATIN SMALL LETTER L WITH CARON;LATIN CAPITAL LETTER ",
  "L WITH MIDDLE DOT;LATIN SMALL LETTER L WITH MIDDLE DOT;LATIN CAPITAL LETTER L WITH STROKE;",
  "LATIN SMALL LETTER L WITH STROKE;LATIN CAPITAL LETTER N WITH ACUTE;LATIN SMALL LETTER N WITH ",
  "ACUTE;LATIN CAPITAL LETTER N WITH CEDILLA;LATIN SMALL LETTER N WITH CEDILLA;LATIN CAPITAL ",
  "LETTER N WITH CARON;LATIN SMALL LETTER N WITH CARON;LATIN SMALL LETTER N PRECEDED BY ",
  "APOSTROPHE;LATIN CAPITAL LETTER ENG;LATIN SMALL LETTER ENG;LATIN CAPITAL LETTER O WITH MACRON;",
  "LATIN SMALL LETTER O WITH MACRON;LATIN CAPITAL LETTER O WITH BREVE;LATIN SMALL LETTER O WITH ",
  "BREVE;LATIN CAPITAL LETTER O WITH DOUBLE ACUTE;LATIN SMALL LETTER O WITH DOUBLE ACUTE;LATIN ",
  "CAPITAL LIGATURE OE;LATIN SMALL LIGATURE OE;LATIN CAPITAL LETTER R WITH ACUTE;LATIN SMALL ",
  "LETTER R WITH ACUTE;LATIN CAPITAL LETTER R WITH CEDILLA;LATIN SMALL LETTER R WITH CEDILLA;",
  "LATIN CAPITAL LETTER R WITH CARON;LATIN SMALL LETTER R WITH CARON;LATIN CAPITAL LETTER S WITH ",
  "ACUTE;LATIN SMALL LETTER S WITH ACUTE;LATIN CAPITAL LETTER S WITH CIRCUMFLEX;LATIN SMALL ",
  "LETTER S WITH CIRCUMFLEX;LATIN CAPITAL LETTER S WITH CEDILLA;LATIN SMALL LETTER S WITH ",
  "CEDILLA;LATIN CAPITAL LETTER S WITH CARON;LATIN SMALL LETTER S WITH CARON;LATIN CAPITAL LETTER ",
  "T WITH CEDILLA;LATIN SMALL LETTER T WITH CEDILLA;LATIN CAPITAL LETTER T WITH CARON;LATIN SMALL ",
  "LETTER T WITH CARON;LATIN CAPITAL LETTER T WITH STROKE;LATIN SMALL LETTER T WITH STROKE;LATIN ",
  "CAPITAL LETTER U WITH TILDE;LATIN SMALL LETTER U WITH TILDE;LATIN CAPITAL LETTER U WITH ",
  "MACRON;LATIN SMALL LETTER U WITH MACRON;LATIN CAPITAL LETTER U WITH BREVE;LATIN SMALL LETTER U ",
  "WITH BREVE;LATIN CAPITAL LETTER U WITH RING ABOVE;LATIN SMALL LETTER U WITH RING ABOVE;LATIN ",
  "CAPITAL LETTER U WITH DOUBLE ACUTE;LATIN SMALL LETTER U WITH DOUBLE ACUTE;LATIN CAPITAL LETTER ",
  "U WITH OGONEK;LATIN SMALL LETTER U WITH OGONEK;LATIN CAPITAL LETTER W WITH CIRCUMFLEX;LATIN ",
  "SMALL LETTER W WITH CIRCUMFLEX;LATIN CAPITAL LETTER Y WITH CIRCUMFLEX;LATIN SMALL LETTER Y ",
  "WITH CIRCUMFLEX;LATIN CAPITAL LETTER Y WITH DIAERESIS;LATIN CAPITAL LETTER Z WITH ACUTE;LATIN ",
  "SMALL LETTER Z WITH ACUTE;LATIN CAPITAL LETTER Z WITH DOT ABOVE;LATIN SMALL LETTER Z WITH DOT ",
  "ABOVE;LATIN CAPITAL LETTER Z WITH CARON;LATIN SMALL LETTER Z WITH CARON;LATIN SMALL LETTER ",
  "LONG S;LATIN SMALL LETTER B WITH STROKE;LATIN CAPITAL LETTER B WITH HOOK;LATIN CAPITAL LETTER ",
  "B WITH TOPBAR;LATIN SMALL LETTER B WITH TOPBAR;LATIN CAPITAL LETTER TONE SIX;LATIN SMALL ",
  "LETTER TONE SIX;LATIN CAPITAL LETTER OPEN O;LATIN CAPITAL LETTER C WITH HOOK;LATIN SMALL ",
  "LETTER C WITH HOOK;LATIN CAPITAL LETTER AFRICAN D;LATIN CAPITAL LETTER D WITH HOOK;LATIN ",
  "CAPITAL LETTER D WITH TOPBAR;LATIN SMALL LETTER D WITH TOPBAR;LATIN SMALL LETTER TURNED DELTA;",
  "LATIN CAPITAL LETTER REVERSED E;LATIN CAPITAL LETTER SCHWA;LATIN CAPITAL LETTER OPEN E;LATIN ",
  "CAPITAL LETTER F WITH HOOK;LATIN SMALL LETTER F WITH HOOK;LATIN CAPITAL LETTER G WITH HOOK;",
  "LATIN CAPITAL LETTER GAMMA;LATIN SMALL LETTER HV;LATIN CAPITAL LETTER IOTA;LATIN CAPITAL ",
  "LETTER I WITH STROKE;LATIN CAPITAL LETTER K WITH HOOK;LATIN SMALL LETTER K WITH HOOK;LATIN ",
  "SMALL LETTER L WITH BAR;LATIN SMALL LETTER LAMBDA WITH STROKE;LATIN CAPITAL LETTER TURNED M;",
  "LATIN CAPITAL LETTER N WITH LEFT HOOK;LATIN SMALL LETTER N WITH LONG RIGHT LEG;LATIN CAPITAL ",
  "LETTER O WITH MIDDLE TILDE;LATIN CAPITAL LETTER O WITH HORN;LATIN SMALL LETTER O WITH HORN;",
  "LATIN CAPITAL LETTER OI;LATIN SMALL LETTER OI;LATIN CAPITAL LETTER P WITH HOOK;LATIN SMALL ",
  "LETTER P WITH HOOK;LATIN LETTER YR;LATIN CAPITAL LETTER TONE TWO;LATIN SMALL LETTER TONE TWO;",
  "LATIN CAPITAL LETTER ESH;LATIN LETTER REVERSED ESH LOOP;LATIN SMALL LETTER T WITH PALATAL ",
  "HOOK;LATIN CAPITAL LETTER T WITH HOOK;LATIN SMALL LETTER T WITH HOOK;LATIN CAPITAL LETTER T ",
  "WITH RETROFLEX HOOK;LATIN CAPITAL LETTER U WITH HORN;LATIN SMALL LETTER U WITH HORN;LATIN ",
  "CAPITAL LETTER UPSILON;LATIN CAPITAL LETTER V WITH HOOK;LATIN CAPITAL LETTER Y WITH HOOK;LATIN ",
  "SMALL LETTER Y WITH HOOK;LATIN CAPITAL LETTER Z WITH STROKE;LATIN SMALL LETTER Z WITH STROKE;",
  "LATIN CAPITAL LETTER EZH;LATIN CAPITAL LETTER EZH REVERSED;LATIN SMALL LETTER EZH REVERSED;",
  "LATIN SMALL LETTER EZH WITH TAIL;LATIN LETTER TWO WITH STROKE;LATIN CAPITAL LETTER TONE FIVE;",
  "LATIN SMALL LETTER TONE FIVE;LATIN LETTER INVERTED GLOTTAL STOP WITH STROKE;LATIN LETTER WYNN;",
  "LATIN LETTER DENTAL CLICK;LATIN LETTER LATERAL CLICK;LATIN LETTER ALVEOLAR CLICK;LATIN LETTER ",
  "RETROFLEX CLICK;LATIN CAPITAL LETTER DZ WITH CARON;LATIN CAPITAL LETTER D WITH SMALL LETTER Z ",
  "WITH CARON;LATIN SMALL LETTER DZ WITH CARON;LATIN CAPITAL LETTER LJ;LATIN CAPITAL LETTER L ",
  "WITH SMALL LETTER J;LATIN SMALL LETTER LJ;LATIN CAPITAL LETTER NJ;LATIN CAPITAL LETTER N WITH ",
  "SMALL LETTER J;LATIN SMALL LETTER NJ;LATIN CAPITAL LETTER A WITH CARON;LATIN SMALL LETTER A ",
  "WITH CARON;LATIN CAPITAL LETTER I WITH CARON;LATIN SMALL LETTER I WITH CARON;LATIN CAPITAL ",
  "LETTER O WITH CARON;LATIN SMALL LETTER O WITH CARON;LATIN CAPITAL LETTER U WITH CARON;LATIN ",
  "SMALL LETTER U WITH CARON;LATIN CAPITAL LETTER U WITH DIAERESIS AND MACRON;LATIN SMALL LETTER ",
  "U WITH DIAERESIS AND MACRON;LATIN CAPITAL LETTER U WITH DIAERESIS AND ACUTE;LATIN SMALL LETTER ",
  "U WITH DIAERESIS AND ACUTE;LATIN CAPITAL LETTER U WITH DIAERESIS AND CARON;LATIN SMALL LETTER ",
  "U WITH DIAERESIS AND CARON;LATIN CAPITAL LETTER U WITH DIAERESIS AND GRAVE;LATIN SMALL LETTER ",
  "U WITH DIAERESIS AND GRAVE;LATIN SMALL LETTER TURNED E;LATIN CAPITAL LETTER A WITH DIAERESIS ",
  "AND MACRON;LATIN SMALL LETTER A WITH DIAERESIS AND MACRON;LATIN CAPITAL LETTER A WITH DOT ",
  "ABOVE AND MACRON;LATIN SMALL LETTER A WITH DOT ABOVE AND MACRON;LATIN CAPITAL LETTER AE WITH ",
  "MACRON;LATIN SMALL LETTER AE WITH MACRON;LATIN CAPITAL LETTER G WITH STROKE;LATIN SMALL LETTER ",
  "G WITH STROKE;LATIN CAPITAL LETTER G WITH CARON;LATIN SMALL LETTER G WITH CARON;LATIN CAPITAL ",
  "LETTER K WITH CARON;LATIN SMALL LETTER K WITH CARON;LATIN CAPITAL LETTER O WITH OGONEK;LATIN ",
  "SMALL LETTER O WITH OGONEK;LATIN CAPITAL LETTER O WITH OGONEK AND MACRON;LATIN SMALL LETTER O ",
  "WITH OGONEK AND MACRON;LATIN CAPITAL LETTER EZH WITH CARON;LATIN SMALL LETTER EZH WITH CARON;",
  "LATIN SMALL LETTER J WITH CARON;LATIN CAPITAL LETTER DZ;LATIN CAPITAL LETTER D WITH SMALL ",
  "LETTER Z;LATIN SMALL LETTER DZ;LATIN CAPITAL LETTER G WITH ACUTE;LATIN SMALL LETTER G WITH ",
  "ACUTE;LATIN CAPITAL LETTER HWAIR;LATIN CAPITAL LETTER WYNN;LATIN CAPITAL LETTER N WITH GRAVE;",
  "LATIN SMALL LETTER N WITH GRAVE;LATIN CAPITAL LETTER A WITH RING ABOVE AND ACUTE;LATIN SMALL ",
  "LETTER A WITH RING ABOVE AND ACUTE;LATIN CAPITAL LETTER AE WITH ACUTE;LATIN SMALL LETTER AE ",
  "WITH ACUTE;LATIN CAPITAL LETTER O WITH STROKE AND ACUTE;LATIN SMALL LETTER O WITH STROKE AND ",
  "ACUTE;LATIN CAPITAL LETTER A WITH DOUBLE GRAVE;LATIN SMALL LETTER A WITH DOUBLE GRAVE;LATIN ",
  "CAPITAL LETTER A WITH INVERTED BREVE;LATIN SMALL LETTER A WITH INVERTED BREVE;LATIN CAPITAL ",
  "LETTER E WITH DOUBLE GRAVE;LATIN SMALL LETTER E WITH DOUBLE GRAVE;LATIN CAPITAL LETTER E WITH ",
  "INVERTED BREVE;LATIN SMALL LETTER E WITH INVERTED BREVE;LATIN CAPITAL LETTER I WITH DOUBLE ",
  "GRAVE;LATIN SMALL LETTER I WITH DOUBLE GRAVE;LATIN CAPITAL LETTER I WITH INVERTED BREVE;LATIN ",
  "SMALL LETTER I WITH INVERTED BREVE;LATIN CAPITAL LETTER O WITH DOUBLE GRAVE;LATIN SMALL LETTER ",
  "O WITH DOUBLE GRAVE;LATIN CAPITAL LETTER O WITH INVERTED BREVE;LATIN SMALL LETTER O WITH ",
  "INVERTED BREVE;LATIN CAPITAL LETTER R WITH DOUBLE GRAVE;LATIN SMALL LETTER R WITH DOUBLE ",
  "GRAVE;LATIN CAPITAL LETTER R WITH INVERTED BREVE;LATIN SMALL LETTER R WITH INVERTED BREVE;",
  "LATIN CAPITAL LETTER U WITH DOUBLE GRAVE;LATIN SMALL LETTER U WITH DOUBLE GRAVE;LATIN CAPITAL ",
  "LETTER U WITH INVERTED BREVE;LATIN SMALL LETTER U WITH INVERTED BREVE;LATIN CAPITAL LETTER S ",
  "WITH COMMA BELOW;LATIN SMALL LETTER S WITH COMMA BELOW;LATIN CAPITAL LETTER T WITH COMMA ",
  "BELOW;LATIN SMALL LETTER T WITH COMMA BELOW;LATIN CAPITAL LETTER YOGH;LATIN SMALL LETTER YOGH;",
  "LATIN CAPITAL LETTER H WITH CARON;LATIN SMALL LETTER H WITH CARON;LATIN CAPITAL LETTER N WITH ",
  "LONG RIGHT LEG;LATIN SMALL LETTER D WITH CURL;LATIN CAPITAL LETTER OU;LATIN SMALL LETTER OU;",
  "LATIN CAPITAL LETTER Z WITH HOOK;LATIN SMALL LETTER Z WITH HOOK;LATIN CAPITAL LETTER A WITH ",
  "DOT ABOVE;LATIN SMALL LETTER A WITH DOT ABOVE;LATIN CAPITAL LETTER E WITH CEDILLA;LATIN SMALL ",
  "LETTER E WITH CEDILLA;LATIN CAPITAL LETTER O WITH DIAERESIS AND MACRON;LATIN SMALL LETTER O ",
  "WITH DIAERESIS AND MACRON;LATIN CAPITAL LETTER O WITH TILDE AND MACRON;LATIN SMALL LETTER O ",
  "WITH TILDE AND MACRON;LATIN CAPITAL LETTER O WITH DOT ABOVE;LATIN SMALL LETTER O WITH DOT ",
  "ABOVE;LATIN CAPITAL LETTER O WITH DOT ABOVE AND MACRON;LATIN SMALL LETTER O WITH DOT ABOVE AND ",
  "MACRON;LATIN CAPITAL LETTER Y WITH MACRON;LATIN SMALL LETTER Y WITH MACRON;LATIN SMALL LETTER ",
  "L WITH CURL;LATIN SMALL LETTER N WITH CURL;LATIN SMALL LETTER T WITH CURL;LATIN SMALL LETTER ",
  "DOTLESS J;LATIN SMALL LETTER DB DIGRAPH;LATIN SMALL LETTER QP DIGRAPH;LATIN CAPITAL LETTER A ",
  "WITH STROKE;LATIN CAPITAL LETTER C WITH STROKE;LATIN SMALL LETTER C WITH STROKE;LATIN CAPITAL ",
  "LETTER L WITH BAR;LATIN CAPITAL LETTER T WITH DIAGONAL STROKE;LATIN SMALL LETTER S WITH SWASH ",
  "TAIL;LATIN SMALL LETTER Z WITH SWASH TAIL;LATIN CAPITAL LETTER GLOTTAL STOP;LATIN SMALL LETTER ",
  "GLOTTAL STOP;LATIN CAPITAL LETTER B WITH STROKE;LATIN CAPITAL LETTER U BAR;LATIN CAPITAL ",
  "LETTER TURNED V;LATIN CAPITAL LETTER E WITH STROKE;LATIN SMALL LETTER E WITH STROKE;LATIN ",
  "CAPITAL LETTER J WITH STROKE;LATIN SMALL LETTER J WITH STROKE;LATIN CAPITAL LETTER SMALL Q ",
  "WITH HOOK TAIL;LATIN SMALL LETTER Q WITH HOOK TAIL;LATIN CAPITAL LETTER R WITH STROKE;LATIN ",
  "SMALL LETTER R WITH STROKE;LATIN CAPITAL LETTER Y WITH STROKE;LATIN SMALL LETTER Y WITH ",
  "STROKE"]

def phoneticNames : String := String.join [
  "LATIN SMALL LETTER TURNED A;LATIN SMALL LETTER ALPHA;LATIN SMALL LETTER TURNED ALPHA;LATIN ",
  "SMALL LETTER B WITH HOOK;LATIN SMALL LETTER OPEN O;LATIN SMALL LETTER C WITH CURL;LATIN SMALL ",
  "LETTER D WITH TAIL;LATIN SMALL LETTER D WITH HOOK;LATIN SMALL LETTER REVERSED E;LATIN SMALL ",
  "LETTER SCHWA;LATIN SMALL LETTER SCHWA WITH HOOK;LATIN SMALL LETTER OPEN E;LATIN SMALL LETTER ",
  "REVERSED OPEN E;LATIN SMALL LETTER REVERSED OPEN E WITH HOOK;LATIN SMALL LETTER CLOSED ",
  "REVERSED OPEN E;LATIN SMALL LETTER DOTLESS J WITH STROKE;LATIN SMALL LETTER G WITH HOOK;LATIN ",
  "SMALL LETTER SCRIPT G;LATIN LETTER SMALL CAPITAL G;LATIN SMALL LETTER GAMMA;LATIN SMALL LETTER ",
  "RAMS HORN;LATIN SMALL LETTER TURNED H;LATIN SMALL LETTER H WITH HOOK;LATIN SMALL LETTER HENG ",
  "WITH HOOK;LATIN SMALL LETTER I WITH STROKE;LATIN SMALL LETTER IOTA;LATIN LETTER SMALL CAPITAL ",
  "I;LATIN SMALL LETTER L WITH MIDDLE TILDE;LATIN SMALL LETTER L WITH BELT;LATIN SMALL LETTER L ",
  "WITH RETROFLEX HOOK;LATIN SMALL LETTER LEZH;LATIN SMALL LETTER TURNED M;LATIN SMALL LETTER ",
  "TURNED M WITH LONG LEG;LATIN SMALL LETTER M WITH HOOK;LATIN SMALL LETTER N WITH LEFT HOOK;",
  "LATIN SMALL LETTER N WITH RETROFLEX HOOK;LATIN LETTER SMALL CAPITAL N;LATIN SMALL LETTER ",
  "BARRED O;LATIN LETTER SMALL CAPITAL OE;LATIN SMALL LETTER CLOSED OMEGA;LATIN SMALL LETTER PHI;",
  "LATIN SMALL LETTER TURNED R;LATIN SMALL LETTER TURNED R WITH LONG LEG;LATIN SMALL LETTER ",
  "TURNED R WITH HOOK;LATIN SMALL LETTER R WITH LONG LEG;LATIN SMALL LETTER R WITH TAIL;LATIN ",
  "SMALL LETTER R WITH FISHHOOK;LATIN SMALL LETTER REVERSED R WITH FISHHOOK;LATIN LETTER SMALL ",
  "CAPITAL R;LATIN LETTER SMALL CAPITAL INVERTED R;LATIN SMALL LETTER S WITH HOOK;LATIN SMALL ",
  "LETTER ESH;LATIN SMALL LETTER DOTLESS J WITH STROKE AND HOOK;LATIN SMALL LETTER SQUAT REVERSED ",
  "ESH;LATIN SMALL LETTER ESH WITH CURL;LATIN SMALL LETTER TURNED T;LATIN SMALL LETTER T WITH ",
  "RETROFLEX HOOK;LATIN SMALL LETTER U BAR;LATIN SMALL LETTER UPSILON;LATIN SMALL LETTER V WITH ",
  "HOOK;LATIN SMALL LETTER TURNED V;LATIN SMALL LETTER TURNED W;LATIN SMALL LETTER TURNED Y;LATIN ",
  "LETTER SMALL CAPITAL Y;LATIN SMALL LETTER Z WITH RETROFLEX HOOK;LATIN SMALL LETTER Z WITH ",
  "CURL;LATIN SMALL LETTER EZH;LATIN SMALL LETTER EZH WITH CURL;LATIN LETTER GLOTTAL STOP;LATIN ",
  "LETTER PHARYNGEAL VOICED FRICATIVE;LATIN LETTER INVERTED GLOTTAL STOP;LATIN LETTER STRETCHED ",
  "C;LATIN LETTER BILABIAL CLICK;LATIN LETTER SMALL CAPITAL B;LATIN SMALL LETTER CLOSED OPEN E;",
  "LATIN LETTER SMALL CAPITAL G WITH HOOK;LATIN LETTER SMALL CAPITAL H;LATIN SMALL LETTER J WITH ",
  "CROSSED-TAIL;LATIN SMALL LETTER TURNED K;LATIN LETTER SMALL CAPITAL L;LATIN SMALL LETTER Q ",
  "WITH HOOK;LATIN LETTER GLOTTAL STOP WITH STROKE;LATIN LETTER REVERSED GLOTTAL STOP WITH ",
  "STROKE;LATIN SMALL LETTER DZ DIGRAPH;LATIN SMALL LETTER DEZH DIGRAPH;LATIN SMALL LETTER DZ ",
  "DIGRAPH WITH CURL;LATIN SMALL LETTER TS DIGRAPH;LATIN SMALL LETTER TESH DIGRAPH;LATIN SMALL ",
  "LETTER TC DIGRAPH WITH CURL;LATIN SMALL LETTER FENG DIGRAPH;LATIN SMALL LETTER LS DIGRAPH;",
  "LATIN SMALL LETTER LZ DIGRAPH;LATIN LETTER BILABIAL PERCUSSIVE;LATIN LETTER BIDENTAL ",
  "PERCUSSIVE;LATIN SMALL LETTER TURNED H WITH FISHHOOK;LATIN SMALL LETTER TURNED H WITH FISHHOOK ",
  "AND TAIL;MODIFIER LETTER SMALL H;MODIFIER LETTER SMALL H WITH HOOK;MODIFIER LETTER SMALL J;",
  "MODIFIER LETTER SMALL R;MODIFIER LETTER SMALL TURNED R;MODIFIER LETTER SMALL TURNED R WITH ",
  "HOOK;MODIFIER LETTER SMALL CAPITAL INVERTED R;MODIFIER LETTER SMALL W;MODIFIER LETTER SMALL Y;",
  "MODIFIER LETTER PRIME;MODIFIER LETTER DOUBLE PRIME;MODIFIER LETTER TURNED COMMA;MODIFIER ",
  "LETTER APOSTROPHE;MODIFIER LETTER REVERSED COMMA;MODIFIER LETTER RIGHT HALF RING;MODIFIER ",
  "LETTER LEFT HALF RING;MODIFIER LETTER GLOTTAL STOP;MODIFIER LETTER REVERSED GLOTTAL STOP;",
  "MODIFIER LETTER LEFT ARROWHEAD;MODIFIER LETTER RIGHT ARROWHEAD;MODIFIER LETTER UP ARROWHEAD;",
  "MODIFIER LETTER DOWN ARROWHEAD;MODIFIER LETTER CIRCUMFLEX ACCENT;CARON;MODIFIER LETTER ",
  "VERTICAL LINE;MODIFIER LETTER MACRON;MODIFIER LETTER ACUTE ACCENT;MODIFIER LETTER GRAVE ",
  "ACCENT;MODIFIER LETTER LOW VERTICAL LINE;MODIFIER LETTER LOW MACRON;MODIFIER LETTER LOW GRAVE ",
  "ACCENT;MODIFIER LETTER LOW ACUTE ACCENT;MODIFIER LETTER TRIANGULAR COLON;MODIFIER LETTER HALF ",
  "TRIANGULAR COLON;MODIFIER LETTER CENTRED RIGHT HALF RING;MODIFIER LETTER CENTRED LEFT HALF ",
  "RING;MODIFIER LETTER UP TACK;MODIFIER LETTER DOWN TACK;MODIFIER LETTER PLUS SIGN;MODIFIER ",
  "LETTER MINUS SIGN;BREVE;DOT ABOVE;RING ABOVE;OGONEK;SMALL TILDE;DOUBLE ACUTE ACCENT;MODIFIER ",
  "LETTER RHOTIC HOOK;MODIFIER LETTER CROSS ACCENT;MODIFIER LETTER SMALL GAMMA;MODIFIER LETTER ",
  "SMALL L;MODIFIER LETTER SMALL S;MODIFIER LETTER SMALL X;MODIFIER LETTER SMALL REVERSED GLOTTAL ",
  "STOP;MODIFIER LETTER EXTRA-HIGH TONE BAR;MODIFIER LETTER HIGH TONE BAR;MODIFIER LETTER MID ",
  "TONE BAR;MODIFIER LETTER LOW TONE BAR;MODIFIER LETTER EXTRA-LOW TONE BAR;MODIFIER LETTER YIN ",
  "DEPARTING TONE MARK;MODIFIER LETTER YANG DEPARTING TONE MARK;MODIFIER LETTER VOICING;MODIFIER ",
  "LETTER UNASPIRATED;MODIFIER LETTER DOUBLE APOSTROPHE;MODIFIER LETTER LOW DOWN ARROWHEAD;",
  "MODIFIER LETTER LOW UP ARROWHEAD;MODIFIER LETTER LOW LEFT ARROWHEAD;MODIFIER LETTER LOW RIGHT ",
  "ARROWHEAD;MODIFIER LETTER LOW RING;MODIFIER LETTER MIDDLE GRAVE ACCENT;MODIFIER LETTER MIDDLE ",
  "DOUBLE GRAVE ACCENT;MODIFIER LETTER MIDDLE DOUBLE ACUTE ACCENT;MODIFIER LETTER LOW TILDE;",
  "MODIFIER LETTER RAISED COLON;MODIFIER LETTER BEGIN HIGH TONE;MODIFIER LETTER END HIGH TONE;",
  "MODIFIER LETTER BEGIN LOW TONE;MODIFIER LETTER END LOW TONE;MODIFIER LETTER SHELF;MODIFIER ",
  "LETTER OPEN SHELF;MODIFIER LETTER LOW LEFT ARROW;COMBINING GRAVE ACCENT;COMBINING ACUTE ",
  "ACCENT;COMBINING CIRCUMFLEX ACCENT;COMBINING TILDE;COMBINING MACRON;COMBINING OVERLINE;",
  "COMBINING BREVE;COMBINING DOT ABOVE;COMBINING DIAERESIS;COMBINING HOOK ABOVE;COMBINING RING ",
  "ABOVE;COMBINING DOUBLE ACUTE ACCENT;COMBINING CARON;COMBINING VERTICAL LINE ABOVE;COMBINING ",
  "DOUBLE VERTICAL LINE ABOVE;COMBINING DOUBLE GRAVE ACCENT;COMBINING CANDRABINDU;COMBINING ",
  "INVERTED BREVE;COMBINING TURNED COMMA ABOVE;COMBINING COMMA ABOVE;COMBINING REVERSED COMMA ",
  "ABOVE;COMBINING COMMA ABOVE RIGHT;COMBINING GRAVE ACCENT BELOW;COMBINING ACUTE ACCENT BELOW;",
  "COMBINING LEFT TACK BELOW;COMBINING RIGHT TACK BELOW;COMBINING LEFT ANGLE ABOVE;COMBINING ",
  "HORN;COMBINING LEFT HALF RING BELOW;COMBINING UP TACK BELOW;COMBINING DOWN TACK BELOW;",
  "COMBINING PLUS SIGN BELOW;COMBINING MINUS SIGN BELOW;COMBINING PALATALIZED HOOK BELOW;",
  "COMBINING RETROFLEX HOOK BELOW;COMBINING DOT BELOW;COMBINING DIAERESIS BELOW;COMBINING RING ",
  "BELOW;COMBINING COMMA BELOW;COMBINING CEDILLA;COMBINING OGONEK;COMBINING VERTICAL LINE BELOW;",
  "COMBINING BRIDGE BELOW;COMBINING INVERTED DOUBLE ARCH BELOW;COMBINING CARON BELOW;COMBINING ",
  "CIRCUMFLEX ACCENT BELOW;COMBINING BREVE BELOW;COMBINING INVERTED BREVE BELOW;COMBINING TILDE ",
  "BELOW;COMBINING MACRON BELOW;COMBINING LOW LINE;COMBINING DOUBLE LOW LINE;COMBINING TILDE ",
  "OVERLAY;COMBINING SHORT STROKE OVERLAY;COMBINING LONG STROKE OVERLAY;COMBINING SHORT SOLIDUS ",
  "OVERLAY;COMBINING LONG SOLIDUS OVERLAY;COMBINING RIGHT HALF RING BELOW;COMBINING INVERTED ",
  "BRIDGE BELOW;COMBINING SQUARE BELOW;COMBINING SEAGULL BELOW;COMBINING X ABOVE;COMBINING ",
  "VERTICAL TILDE;COMBINING DOUBLE OVERLINE;COMBINING GRAVE TONE MARK;COMBINING ACUTE TONE MARK;",
  "COMBINING GREEK PERISPOMENI;COMBINING GREEK KORONIS;COMBINING GREEK DIALYTIKA TONOS;COMBINING ",
  "GREEK YPOGEGRAMMENI;COMBINING BRIDGE ABOVE;COMBINING EQUALS SIGN BELOW;COMBINING DOUBLE ",
  "VERTICAL LINE BELOW;COMBINING LEFT ANGLE BELOW;COMBINING NOT TILDE ABOVE;COMBINING HOMOTHETIC ",
  "ABOVE;COMBINING ALMOST EQUAL TO ABOVE;COMBINING LEFT RIGHT ARROW BELOW;COMBINING UPWARDS ARROW ",
  "BELOW;COMBINING GRAPHEME JOINER;COMBINING RIGHT ARROWHEAD ABOVE;COMBINING LEFT HALF RING ",
  "ABOVE;COMBINING FERMATA;COMBINING X BELOW;COMBINING LEFT ARROWHEAD BELOW;COMBINING RIGHT ",
  "ARROWHEAD BELOW;COMBINING RIGHT ARROWHEAD AND UP ARROWHEAD BELOW;COMBINING RIGHT HALF RING ",
  "ABOVE;COMBINING DOT ABOVE RIGHT;COMBINING ASTERISK BELOW;COMBINING DOUBLE RING BELOW;COMBINING ",
  "ZIGZAG ABOVE;COMBINING DOUBLE BREVE BELOW;COMBINING DOUBLE BREVE;COMBINING DOUBLE MACRON;",
  "COMBINING DOUBLE MACRON BELOW;COMBINING DOUBLE TILDE;COMBINING DOUBLE INVERTED BREVE;COMBINING ",
  "DOUBLE RIGHTWARDS ARROW BELOW;COMBINING LATIN SMALL LETTER A;COMBINING LATIN SMALL LETTER E;",
  "COMBINING LATIN SMALL LETTER I;COMBINING LATIN SMALL LETTER O;COMBINING LATIN SMALL LETTER U;",
  "COMBINING LATIN SMALL LETTER C;COMBINING LATIN SMALL LETTER D;COMBINING LATIN SMALL LETTER H;",
  "COMBINING LATIN SMALL LETTER M;COMBINING LATIN SMALL LETTER R;COMBINING LATIN SMALL LETTER T;",
  "COMBINING LATIN SMALL LETTER V;COMBINING LATIN SMALL LETTER X"]

def greekNames : String := String.join [
  "GREEK CAPITAL LETTER HETA;GREEK SMALL LETTER HETA;GREEK CAPITAL LETTER ARCHAIC SAMPI;GREEK ",
  "SMALL LETTER ARCHAIC SAMPI;GREEK NUMERAL SIGN;GREEK LOWER NUMERAL SIGN;GREEK CAPITAL LETTER ",
  "PAMPHYLIAN DIGAMMA;GREEK SMALL LETTER PAMPHYLIAN DIGAMMA;;;GREEK YPOGEGRAMMENI;GREEK SMALL ",
  "REVERSED LUNATE SIGMA SYMBOL;GREEK SMALL DOTTED LUNATE SIGMA SYMBOL;GREEK SMALL REVERSED ",
  "DOTTED LUNATE SIGMA SYMBOL;GREEK QUESTION MARK;GREEK CAPITAL LETTER YOT;;;;;GREEK TONOS;GREEK ",
  "DIALYTIKA TONOS;GREEK CAPITAL LETTER ALPHA WITH TONOS;GREEK ANO TELEIA;GREEK CAPITAL LETTER ",
  "EPSILON WITH TONOS;GREEK CAPITAL LETTER ETA WITH TONOS;GREEK CAPITAL LETTER IOTA WITH TONOS;;",
  "GREEK CAPITAL LETTER OMICRON WITH TONOS;;GREEK CAPITAL LETTER UPSILON WITH TONOS;GREEK CAPITAL ",
  "LETTER OMEGA WITH TONOS;GREEK SMALL LETTER IOTA WITH DIALYTIKA AND TONOS;GREEK CAPITAL LETTER ",
  "ALPHA;GREEK CAPITAL LETTER BETA;GREEK CAPITAL LETTER GAMMA;GREEK CAPITAL LETTER DELTA;GREEK ",
  "CAPITAL LETTER EPSILON;GREEK CAPITAL LETTER ZETA;GREEK CAPITAL LETTER ETA;GREEK CAPITAL LETTER ",
  "THETA;GREEK CAPITAL LETTER IOTA;GREEK CAPITAL LETTER KAPPA;GREEK CAPITAL LETTER LAMDA;GREEK ",
  "CAPITAL LETTER MU;GREEK CAPITAL LETTER NU;GREEK CAPITAL LETTER XI;GREEK CAPITAL LETTER ",
  "OMICRON;GREEK CAPITAL LETTER PI;GREEK CAPITAL LETTER RHO;;GREEK CAPITAL LETTER SIGMA;GREEK ",
  "CAPITAL LETTER TAU;GREEK CAPITAL LETTER UPSILON;GREEK CAPITAL LETTER PHI;GREEK CAPITAL LETTER ",
  "CHI;GREEK CAPITAL LETTER PSI;GREEK CAPITAL LETTER OMEGA;GREEK CAPITAL LETTER IOTA WITH ",
  "DIALYTIKA;GREEK CAPITAL LETTER UPSILON WITH DIALYTIKA;GREEK SMALL LETTER ALPHA WITH TONOS;",
  "GREEK SMALL LETTER EPSILON WITH TONOS;GREEK SMALL LETTER ETA WITH TONOS;GREEK SMALL LETTER ",
  "IOTA WITH TONOS;GREEK SMALL LETTER UPSILON WITH DIALYTIKA AND TONOS;GREEK SMALL LETTER ALPHA;",
  "GREEK SMALL LETTER BETA;GREEK SMALL LETTER GAMMA;GREEK SMALL LETTER DELTA;GREEK SMALL LETTER ",
  "EPSILON;GREEK SMALL LETTER ZETA;GREEK SMALL LETTER ETA;GREEK SMALL LETTER THETA;GREEK SMALL ",
  "LETTER IOTA;GREEK SMALL LETTER KAPPA;GREEK SMALL LETTER LAMDA;GREEK SMALL LETTER MU;GREEK ",
  "SMALL LETTER NU;GREEK SMALL LETTER XI;GREEK SMALL LETTER OMICRON;GREEK SMALL LETTER PI;GREEK ",
  "SMALL LETTER RHO;GREEK SMALL LETTER FINAL SIGMA;GREEK SMALL LETTER SIGMA;GREEK SMALL LETTER ",
  "TAU;GREEK SMALL LETTER UPSILON;GREEK SMALL LETTER PHI;GREEK SMALL LETTER CHI;GREEK SMALL ",
  "LETTER PSI;GREEK SMALL LETTER OMEGA;GREEK SMALL LETTER IOTA WITH DIALYTIKA;GREEK SMALL LETTER ",
  "UPSILON WITH DIALYTIKA;GREEK SMALL LETTER OMICRON WITH TONOS;GREEK SMALL LETTER UPSILON WITH ",
  "TONOS;GREEK SMALL LETTER OMEGA WITH TONOS;GREEK CAPITAL KAI SYMBOL;GREEK BETA SYMBOL;GREEK ",
  "THETA SYMBOL;GREEK UPSILON WITH HOOK SYMBOL;GREEK UPSILON WITH ACUTE AND HOOK SYMBOL;GREEK ",
  "UPSILON WITH DIAERESIS AND HOOK SYMBOL;GREEK PHI SYMBOL;GREEK PI SYMBOL;GREEK KAI SYMBOL;GREEK ",
  "LETTER ARCHAIC KOPPA;GREEK SMALL LETTER ARCHAIC KOPPA;GREEK LETTER STIGMA;GREEK SMALL LETTER ",
  "STIGMA;GREEK LETTER DIGAMMA;GREEK SMALL LETTER DIGAMMA;GREEK LETTER KOPPA;GREEK SMALL LETTER ",
  "KOPPA;GREEK LETTER SAMPI;GREEK SMALL LETTER SAMPI;COPTIC CAPITAL LETTER SHEI;COPTIC SMALL ",
  "LETTER SHEI;COPTIC CAPITAL LETTER FEI;COPTIC SMALL LETTER FEI;COPTIC CAPITAL LETTER KHEI;",
  "COPTIC SMALL LETTER KHEI;COPTIC CAPITAL LETTER HORI;COPTIC SMALL LETTER HORI;COPTIC CAPITAL ",
  "LETTER GANGIA;COPTIC SMALL LETTER GANGIA;COPTIC CAPITAL LETTER SHIMA;COPTIC SMALL LETTER ",
  "SHIMA;COPTIC CAPITAL LETTER DEI;COPTIC SMALL LETTER DEI;GREEK KAPPA SYMBOL;GREEK RHO SYMBOL;",
  "GREEK LUNATE SIGMA SYMBOL;GREEK LETTER YOT;GREEK CAPITAL THETA SYMBOL;GREEK LUNATE EPSILON ",
  "SYMBOL;GREEK REVERSED LUNATE EPSILON SYMBOL;GREEK CAPITAL LETTER SHO;GREEK SMALL LETTER SHO;",
  "GREEK CAPITAL LUNATE SIGMA SYMBOL;GREEK CAPITAL LETTER SAN;GREEK SMALL LETTER SAN;GREEK RHO ",
  "WITH STROKE SYMBOL;GREEK CAPITAL REVERSED LUNATE SIGMA SYMBOL;GREEK CAPITAL DOTTED LUNATE ",
  "SIGMA SYMBOL;GREEK CAPITAL REVERSED DOTTED LUNATE SIGMA SYMBOL"]

def cyrillicNames : String := String.join [
  "CYRILLIC CAPITAL LETTER IE WITH GRAVE;CYRILLIC CAPITAL LETTER IO;CYRILLIC CAPITAL LETTER DJE;",
  "CYRILLIC CAPITAL LETTER GJE;CYRILLIC CAPITAL LETTER UKRAINIAN IE;CYRILLIC CAPITAL LETTER DZE;",
  "CYRILLIC CAPITAL LETTER BYELORUSSIAN-UKRAINIAN I;CYRILLIC CAPITAL LETTER YI;CYRILLIC CAPITAL ",
  "LETTER JE;CYRILLIC CAPITAL LETTER LJE;CYRILLIC CAPITAL LETTER NJE;CYRILLIC CAPITAL LETTER ",
  "TSHE;CYRILLIC CAPITAL LETTER KJE;CYRILLIC CAPITAL LETTER I WITH GRAVE;CYRILLIC CAPITAL LETTER ",
  "SHORT U;CYRILLIC CAPITAL LETTER DZHE;CYRILLIC CAPITAL LETTER A;CYRILLIC CAPITAL LETTER BE;",
  "CYRILLIC CAPITAL LETTER VE;CYRILLIC CAPITAL LETTER GHE;CYRILLIC CAPITAL LETTER DE;CYRILLIC ",
  "CAPITAL LETTER IE;CYRILLIC CAPITAL LETTER ZHE;CYRILLIC CAPITAL LETTER ZE;CYRILLIC CAPITAL ",
  "LETTER I;CYRILLIC CAPITAL LETTER SHORT I;CYRILLIC CAPITAL LETTER KA;CYRILLIC CAPITAL LETTER ",
  "EL;CYRILLIC CAPITAL LETTER EM;CYRILLIC CAPITAL LETTER EN;CYRILLIC CAPITAL LETTER O;CYRILLIC ",
  "CAPITAL LETTER PE;CYRILLIC CAPITAL LETTER ER;CYRILLIC CAPITAL LETTER ES;CYRILLIC CAPITAL ",
  "LETTER TE;CYRILLIC CAPITAL LETTER U;CYRILLIC CAPITAL LETTER EF;CYRILLIC CAPITAL LETTER HA;",
  "CYRILLIC CAPITAL LETTER TSE;CYRILLIC CAPITAL LETTER CHE;CYRILLIC CAPITAL LETTER SHA;CYRILLIC ",
  "CAPITAL LETTER SHCHA;CYRILLIC CAPITAL LETTER HARD SIGN;CYRILLIC CAPITAL LETTER YERU;CYRILLIC ",
  "CAPITAL LETTER SOFT SIGN;CYRILLIC CAPITAL LETTER E;CYRILLIC CAPITAL LETTER YU;CYRILLIC CAPITAL ",
  "LETTER YA;CYRILLIC SMALL LETTER A;CYRILLIC SMALL LETTER BE;CYRILLIC SMALL LETTER VE;CYRILLIC ",
  "SMALL LETTER GHE;CYRILLIC SMALL LETTER DE;CYRILLIC SMALL LETTER IE;CYRILLIC SMALL LETTER ZHE;",
  "CYRILLIC SMALL LETTER ZE;CYRILLIC SMALL LETTER I;CYRILLIC SMALL LETTER SHORT I;CYRILLIC SMALL ",
  "LETTER KA;CYRILLIC SMALL LETTER EL;CYRILLIC SMALL LETTER EM;CYRILLIC SMALL LETTER EN;CYRILLIC ",
  "SMALL LETTER O;CYRILLIC SMALL LETTER PE;CYRILLIC SMALL LETTER ER;CYRILLIC SMALL LETTER ES;",
  "CYRILLIC SMALL LETTER TE;CYRILLIC SMALL LETTER U;CYRILLIC SMALL LETTER EF;CYRILLIC SMALL ",
  "LETTER HA;CYRILLIC SMALL LETTER TSE;CYRILLIC SMALL LETTER CHE;CYRILLIC SMALL LETTER SHA;",
  "CYRILLIC SMALL LETTER SHCHA;CYRILLIC SMALL LETTER HARD SIGN;CYRILLIC SMALL LETTER YERU;",
  "CYRILLIC SMALL LETTER SOFT SIGN;CYRILLIC SMALL LETTER E;CYRILLIC SMALL LETTER YU;CYRILLIC ",
  "SMALL LETTER YA;CYRILLIC SMALL LETTER IE WITH GRAVE;CYRILLIC SMALL LETTER IO;CYRILLIC SMALL ",
  "LETTER DJE;CYRILLIC SMALL LETTER GJE;CYRILLIC SMALL LETTER UKRAINIAN IE;CYRILLIC SMALL LETTER ",
  "DZE;CYRILLIC SMALL LETTER BYELORUSSIAN-UKRAINIAN I;CYRILLIC SMALL LETTER YI;CYRILLIC SMALL ",
  "LETTER JE;CYRILLIC SMALL LETTER LJE;CYRILLIC SMALL LETTER NJE;CYRILLIC SMALL LETTER TSHE;",
  "CYRILLIC SMALL LETTER KJE;CYRILLIC SMALL LETTER I WITH GRAVE;CYRILLIC SMALL LETTER SHORT U;",
  "CYRILLIC SMALL LETTER DZHE;CYRILLIC CAPITAL LETTER OMEGA;CYRILLIC SMALL LETTER OMEGA;CYRILLIC ",
  "CAPITAL LETTER YAT;CYRILLIC SMALL LETTER YAT;CYRILLIC CAPITAL LETTER IOTIFIED E;CYRILLIC SMALL ",
  "LETTER IOTIFIED E;CYRILLIC CAPITAL LETTER LITTLE YUS;CYRILLIC SMALL LETTER LITTLE YUS;CYRILLIC ",
  "CAPITAL LETTER IOTIFIED LITTLE YUS;CYRILLIC SMALL LETTER IOTIFIED LITTLE YUS;CYRILLIC CAPITAL ",
  "LETTER BIG YUS;CYRILLIC SMALL LETTER BIG YUS;CYRILLIC CAPITAL LETTER IOTIFIED BIG YUS;CYRILLIC ",
  "SMALL LETTER IOTIFIED BIG YUS;CYRILLIC CAPITAL LETTER KSI;CYRILLIC SMALL LETTER KSI;CYRILLIC ",
  "CAPITAL LETTER PSI;CYRILLIC SMALL LETTER PSI;CYRILLIC CAPITAL LETTER FITA;CYRILLIC SMALL ",
  "LETTER FITA;CYRILLIC CAPITAL LETTER IZHITSA;CYRILLIC SMALL LETTER IZHITSA;CYRILLIC CAPITAL ",
  "LETTER IZHITSA WITH DOUBLE GRAVE ACCENT;CYRILLIC SMALL LETTER IZHITSA WITH DOUBLE GRAVE ",
  "ACCENT;CYRILLIC CAPITAL LETTER UK;CYRILLIC SMALL LETTER UK;CYRILLIC CAPITAL LETTER ROUND ",
  "OMEGA;CYRILLIC SMALL LETTER ROUND OMEGA;CYRILLIC CAPITAL LETTER OMEGA WITH TITLO;CYRILLIC ",
  "SMALL LETTER OMEGA WITH TITLO;CYRILLIC CAPITAL LETTER OT;CYRILLIC SMALL LETTER OT;CYRILLIC ",
  "CAPITAL LETTER KOPPA;CYRILLIC SMALL LETTER KOPPA;CYRILLIC THOUSANDS SIGN;COMBINING CYRILLIC ",
  "TITLO;COMBINING CYRILLIC PALATALIZATION;COMBINING CYRILLIC DASIA PNEUMATA;COMBINING CYRILLIC ",
  "PSILI PNEUMATA;COMBINING CYRILLIC POKRYTIE;COMBINING CYRILLIC HUNDRED THOUSANDS SIGN;COMBINING ",
  "CYRILLIC MILLIONS SIGN;CYRILLIC CAPITAL LETTER SHORT I WITH TAIL;CYRILLIC SMALL LETTER SHORT I ",
  "WITH TAIL;CYRILLIC CAPITAL LETTER SEMISOFT SIGN;CYRILLIC SMALL LETTER SEMISOFT SIGN;CYRILLIC ",
  "CAPITAL LETTER ER WITH TICK;CYRILLIC SMALL LETTER ER WITH TICK;CYRILLIC CAPITAL LETTER GHE ",
  "WITH UPTURN;CYRILLIC SMALL LETTER GHE WITH UPTURN;CYRILLIC CAPITAL LETTER GHE WITH STROKE;",
  "CYRILLIC SMALL LETTER GHE WITH STROKE;CYRILLIC CAPITAL LETTER GHE WITH MIDDLE HOOK;CYRILLIC ",
  "SMALL LETTER GHE WITH MIDDLE HOOK;CYRILLIC CAPITAL LETTER ZHE WITH DESCENDER;CYRILLIC SMALL ",
  "LETTER ZHE WITH DESCENDER;CYRILLIC CAPITAL LETTER ZE WITH DESCENDER;CYRILLIC SMALL LETTER ZE ",
  "WITH DESCENDER;CYRILLIC CAPITAL LETTER KA WITH DESCENDER;CYRILLIC SMALL LETTER KA WITH ",
  "DESCENDER;CYRILLIC CAPITAL LETTER KA WITH VERTICAL STROKE;CYRILLIC SMALL LETTER KA WITH ",
  "VERTICAL STROKE;CYRILLIC CAPITAL LETTER KA WITH STROKE;CYRILLIC SMALL LETTER KA WITH STROKE;",
  "CYRILLIC CAPITAL LETTER BASHKIR KA;CYRILLIC SMALL LETTER BASHKIR KA;CYRILLIC CAPITAL LETTER EN ",
  "WITH DESCENDER;CYRILLIC SMALL LETTER EN WITH DESCENDER;CYRILLIC CAPITAL LIGATURE EN GHE;",
  "CYRILLIC SMALL LIGATURE EN GHE;CYRILLIC CAPITAL LETTER PE WITH MIDDLE HOOK;CYRILLIC SMALL ",
  "LETTER PE WITH MIDDLE HOOK;CYRILLIC CAPITAL LETTER ABKHASIAN HA;CYRILLIC SMALL LETTER ",
  "ABKHASIAN HA;CYRILLIC CAPITAL LETTER ES WITH DESCENDER;CYRILLIC SMALL LETTER ES WITH ",
  "DESCENDER;CYRILLIC CAPITAL LETTER TE WITH DESCENDER;CYRILLIC SMALL LETTER TE WITH DESCENDER;",
  "CYRILLIC CAPITAL LETTER STRAIGHT U;CYRILLIC SMALL LETTER STRAIGHT U;CYRILLIC CAPITAL LETTER ",
  "STRAIGHT U WITH STROKE;CYRILLIC SMALL LETTER STRAIGHT U WITH STROKE;CYRILLIC CAPITAL LETTER HA ",
  "WITH DESCENDER;CYRILLIC SMALL LETTER HA WITH DESCENDER;CYRILLIC CAPITAL LIGATURE TE TSE;",
  "CYRILLIC SMALL LIGATURE TE TSE;CYRILLIC CAPITAL LETTER CHE WITH DESCENDER;CYRILLIC SMALL ",
  "LETTER CHE WITH DESCENDER;CYRILLIC CAPITAL LETTER CHE WITH VERTICAL STROKE;CYRILLIC SMALL ",
  "LETTER CHE WITH VERTICAL STROKE;CYRILLIC CAPITAL LETTER SHHA;CYRILLIC SMALL LETTER SHHA;",
  "CYRILLIC CAPITAL LETTER ABKHASIAN CHE;CYRILLIC SMALL LETTER ABKHASIAN CHE;CYRILLIC CAPITAL ",
  "LETTER ABKHASIAN CHE WITH DESCENDER;CYRILLIC SMALL LETTER ABKHASIAN CHE WITH DESCENDER;",
  "CYRILLIC LETTER PALOCHKA;CYRILLIC CAPITAL LETTER ZHE WITH BREVE;CYRILLIC SMALL LETTER ZHE WITH ",
  "BREVE;CYRILLIC CAPITAL LETTER KA WITH HOOK;CYRILLIC SMALL LETTER KA WITH HOOK;CYRILLIC CAPITAL ",
  "LETTER EL WITH TAIL;CYRILLIC SMALL LETTER EL WITH TAIL;CYRILLIC CAPITAL LETTER EN WITH HOOK;",
  "CYRILLIC SMALL LETTER EN WITH HOOK;CYRILLIC CAPITAL LETTER EN WITH TAIL;CYRILLIC SMALL LETTER ",
  "EN WITH TAIL;CYRILLIC CAPITAL LETTER KHAKASSIAN CHE;CYRILLIC SMALL LETTER KHAKASSIAN CHE;",
  "CYRILLIC CAPITAL LETTER EM WITH TAIL;CYRILLIC SMALL LETTER EM WITH TAIL;CYRILLIC SMALL LETTER ",
  "PALOCHKA;CYRILLIC CAPITAL LETTER A WITH BREVE;CYRILLIC SMALL LETTER A WITH BREVE;CYRILLIC ",
  "CAPITAL LETTER A WITH DIAERESIS;CYRILLIC SMALL LETTER A WITH DIAERESIS;CYRILLIC CAPITAL ",
  "LIGATURE A IE;CYRILLIC SMALL LIGATURE A IE;CYRILLIC CAPITAL LETTER IE WITH BREVE;CYRILLIC ",
  "SMALL LETTER IE WITH BREVE;CYRILLIC CAPITAL LETTER SCHWA;CYRILLIC SMALL LETTER SCHWA;CYRILLIC ",
  "CAPITAL LETTER SCHWA WITH DIAERESIS;CYRILLIC SMALL LETTER SCHWA WITH DIAERESIS;CYRILLIC ",
  "CAPITAL LETTER ZHE WITH DIAERESIS;CYRILLIC SMALL LETTER ZHE WITH DIAERESIS;CYRILLIC CAPITAL ",
  "LETTER ZE WITH DIAERESIS;CYRILLIC SMALL LETTER ZE WITH DIAERESIS;CYRILLIC CAPITAL LETTER ",
  "ABKHASIAN DZE;CYRILLIC SMALL LETTER ABKHASIAN DZE;CYRILLIC CAPITAL LETTER I WITH MACRON;",
  "CYRILLIC SMALL LETTER I WITH MACRON;CYRILLIC CAPITAL LETTER I WITH DIAERESIS;CYRILLIC SMALL ",
  "LETTER I WITH DIAERESIS;CYRILLIC CAPITAL LETTER O WITH DIAERESIS;CYRILLIC SMALL LETTER O WITH ",
  "DIAERESIS;CYRILLIC CAPITAL LETTER BARRED O;CYRILLIC SMALL LETTER BARRED O;CYRILLIC CAPITAL ",
  "LETTER BARRED O WITH DIAERESIS;CYRILLIC SMALL LETTER BARRED O WITH DIAERESIS;CYRILLIC CAPITAL ",
  "LETTER E WITH DIAERESIS;CYRILLIC SMALL LETTER E WITH DIAERESIS;CYRILLIC CAPITAL LETTER U WITH ",
  "MACRON;CYRILLIC SMALL LETTER U WITH MACRON;CYRILLIC CAPITAL LETTER U WITH DIAERESIS;CYRILLIC ",
  "SMALL LETTER U WITH DIAERESIS;CYRILLIC CAPITAL LETTER U WITH DOUBLE ACUTE;CYRILLIC SMALL ",
  "LETTER U WITH DOUBLE ACUTE;CYRILLIC CAPITAL LETTER CHE WITH DIAERESIS;CYRILLIC SMALL LETTER ",
  "CHE WITH DIAERESIS;CYRILLIC CAPITAL LETTER GHE WITH DESCENDER;CYRILLIC SMALL LETTER GHE WITH ",
  "DESCENDER;CYRILLIC CAPITAL LETTER YERU WITH DIAERESIS;CYRILLIC SMALL LETTER YERU WITH ",
  "DIAERESIS;CYRILLIC CAPITAL LETTER GHE WITH STROKE AND HOOK;CYRILLIC SMALL LETTER GHE WITH ",
  "STROKE AND HOOK;CYRILLIC CAPITAL LETTER HA WITH HOOK;CYRILLIC SMALL LETTER HA WITH HOOK;",
  "CYRILLIC CAPITAL LETTER HA WITH STROKE;CYRILLIC SMALL LETTER HA WITH STROKE;CYRILLIC CAPITAL ",
  "LETTER KOMI DE;CYRILLIC SMALL LETTER KOMI DE;CYRILLIC CAPITAL LETTER KOMI DJE;CYRILLIC SMALL ",
  "LETTER KOMI DJE;CYRILLIC CAPITAL LETTER KOMI ZJE;CYRILLIC SMALL LETTER KOMI ZJE;CYRILLIC ",
  "CAPITAL LETTER KOMI DZJE;CYRILLIC SMALL LETTER KOMI DZJE;CYRILLIC CAPITAL LETTER KOMI LJE;",
  "CYRILLIC SMALL LETTER KOMI LJE;CYRILLIC CAPITAL LETTER KOMI NJE;CYRILLIC SMALL LETTER KOMI ",
  "NJE;CYRILLIC CAPITAL LETTER KOMI SJE;CYRILLIC SMALL LETTER KOMI SJE;CYRILLIC CAPITAL LETTER ",
  "KOMI TJE;CYRILLIC SMALL LETTER KOMI TJE;CYRILLIC CAPITAL LETTER REVERSED ZE;CYRILLIC SMALL ",
  "LETTER REVERSED ZE;CYRILLIC CAPITAL LETTER EL WITH HOOK;CYRILLIC SMALL LETTER EL WITH HOOK;",
  "CYRILLIC CAPITAL LETTER LHA;CYRILLIC SMALL LETTER LHA;CYRILLIC CAPITAL LETTER RHA;CYRILLIC ",
  "SMALL LETTER RHA;CYRILLIC CAPITAL LETTER YAE;CYRILLIC SMALL LETTER YAE;CYRILLIC CAPITAL LETTER ",
  "QA;CYRILLIC SMALL LETTER QA;CYRILLIC CAPITAL LETTER WE;CYRILLIC SMALL LETTER WE;CYRILLIC ",
  "CAPITAL LETTER ALEUT KA;CYRILLIC SMALL LETTER ALEUT KA;CYRILLIC CAPITAL LETTER EL WITH MIDDLE ",
  "HOOK;CYRILLIC SMALL LETTER EL WITH MIDDLE HOOK;CYRILLIC CAPITAL LETTER EN WITH MIDDLE HOOK;",
  "CYRILLIC SMALL LETTER EN WITH MIDDLE HOOK;CYRILLIC CAPITAL LETTER PE WITH DESCENDER;CYRILLIC ",
  "SMALL LETTER PE WITH DESCENDER;CYRILLIC CAPITAL LETTER SHHA WITH DESCENDER;CYRILLIC SMALL ",
  "LETTER SHHA WITH DESCENDER;CYRILLIC CAPITAL LETTER EN WITH LEFT HOOK;CYRILLIC SMALL LETTER EN ",
  "WITH LEFT HOOK;CYRILLIC CAPITAL LETTER DZZHE;CYRILLIC SMALL LETTER DZZHE;CYRILLIC CAPITAL ",
  "LETTER DCHE;CYRILLIC SMALL LETTER DCHE;CYRILLIC CAPITAL LETTER EL WITH DESCENDER;CYRILLIC ",
  "SMALL LETTER EL WITH DESCENDER"]

def punctuationNames : String := String.join [
  "EN QUAD;EM QUAD;EN SPACE;EM SPACE;THREE-PER-EM SPACE;FOUR-PER-EM SPACE;SIX-PER-EM SPACE;FIGURE ",
  "SPACE;PUNCTUATION SPACE;THIN SPACE;HAIR SPACE;ZERO WIDTH SPACE;ZERO WIDTH NON-JOINER;ZERO ",
  "WIDTH JOINER;LEFT-TO-RIGHT MARK;RIGHT-TO-LEFT MARK;HYPHEN;NON-BREAKING HYPHEN;FIGURE DASH;EN ",
  "DASH;EM DASH;HORIZONTAL BAR;DOUBLE VERTICAL LINE;DOUBLE LOW LINE;LEFT SINGLE QUOTATION MARK;",
  "RIGHT SINGLE QUOTATION MARK;SINGLE LOW-9 QUOTATION MARK;SINGLE HIGH-REVERSED-9 QUOTATION MARK;",
  "LEFT DOUBLE QUOTATION MARK;RIGHT DOUBLE QUOTATION MARK;DOUBLE LOW-9 QUOTATION MARK;DOUBLE ",
  "HIGH-REVERSED-9 QUOTATION MARK;DAGGER;DOUBLE DAGGER;BULLET;TRIANGULAR BULLET;ONE DOT LEADER;",
  "TWO DOT LEADER;HORIZONTAL ELLIPSIS;HYPHENATION POINT;LINE SEPARATOR;PARAGRAPH SEPARATOR;",
  "LEFT-TO-RIGHT EMBEDDING;RIGHT-TO-LEFT EMBEDDING;POP DIRECTIONAL FORMATTING;LEFT-TO-RIGHT ",
  "OVERRIDE;RIGHT-TO-LEFT OVERRIDE;NARROW NO-BREAK SPACE;PER MILLE SIGN;PER TEN THOUSAND SIGN;",
  "PRIME;DOUBLE PRIME;TRIPLE PRIME;REVERSED PRIME;REVERSED DOUBLE PRIME;REVERSED TRIPLE PRIME;",
  "CARET;SINGLE LEFT-POINTING ANGLE QUOTATION MARK;SINGLE RIGHT-POINTING ANGLE QUOTATION MARK;",
  "REFERENCE MARK;DOUBLE EXCLAMATION MARK;INTERROBANG;OVERLINE;UNDERTIE;CHARACTER TIE;CARET ",
  "INSERTION POINT;ASTERISM;HYPHEN BULLET;FRACTION SLASH;LEFT SQUARE BRACKET WITH QUILL;RIGHT ",
  "SQUARE BRACKET WITH QUILL;DOUBLE QUESTION MARK;QUESTION EXCLAMATION MARK;EXCLAMATION QUESTION ",
  "MARK;TIRONIAN SIGN ET;REVERSED PILCROW SIGN;BLACK LEFTWARDS BULLET;BLACK RIGHTWARDS BULLET;LOW ",
  "ASTERISK;REVERSED SEMICOLON;CLOSE UP;TWO ASTERISKS ALIGNED VERTICALLY;COMMERCIAL MINUS SIGN;",
  "SWUNG DASH;INVERTED UNDERTIE;FLOWER PUNCTUATION MARK;THREE DOT PUNCTUATION;QUADRUPLE PRIME;",
  "FOUR DOT PUNCTUATION;FIVE DOT PUNCTUATION;TWO DOT PUNCTUATION;FOUR DOT MARK;DOTTED CROSS;",
  "TRICOLON;VERTICAL FOUR DOTS;MEDIUM MATHEMATICAL SPACE;WORD JOINER;FUNCTION APPLICATION;",
  "INVISIBLE TIMES;INVISIBLE SEPARATOR;INVISIBLE PLUS;;LEFT-TO-RIGHT ISOLATE;RIGHT-TO-LEFT ",
  "ISOLATE;FIRST STRONG ISOLATE;POP DIRECTIONAL ISOLATE;INHIBIT SYMMETRIC SWAPPING;ACTIVATE ",
  "SYMMETRIC SWAPPING;INHIBIT ARABIC FORM SHAPING;ACTIVATE ARABIC FORM SHAPING;NATIONAL DIGIT ",
  "SHAPES;NOMINAL DIGIT SHAPES"]

def currencyNames : String := String.join [
  "EURO-CURRENCY SIGN;COLON SIGN;CRUZEIRO SIGN;FRENCH FRANC SIGN;LIRA SIGN;MILL SIGN;NAIRA SIGN;",
  "PESETA SIGN;RUPEE SIGN;WON SIGN;NEW SHEQEL SIGN;DONG SIGN;EURO SIGN;KIP SIGN;TUGRIK SIGN;",
  "DRACHMA SIGN;GERMAN PENNY SIGN;PESO SIGN;GUARANI SIGN;AUSTRAL SIGN;HRYVNIA SIGN;CEDI SIGN;",
  "LIVRE TOURNOIS SIGN;SPESMILO SIGN;TENGE SIGN;INDIAN RUPEE SIGN;TURKISH LIRA SIGN;NORDIC MARK ",
  "SIGN;MANAT SIGN;RUBLE SIGN;LARI SIGN;BITCOIN SIGN;SOM SIGN"]

def letterlikeNames : String := String.join [
  "ACCOUNT OF;ADDRESSED TO THE SUBJECT;DOUBLE-STRUCK CAPITAL C;DEGREE CELSIUS;CENTRE LINE SYMBOL;",
  "CARE OF;CADA UNA;EULER CONSTANT;SCRUPLE;DEGREE FAHRENHEIT;SCRIPT SMALL G;SCRIPT CAPITAL H;",
  "BLACK-LETTER CAPITAL H;DOUBLE-STRUCK CAPITAL H;PLANCK CONSTANT;PLANCK CONSTANT OVER TWO PI;",
  "SCRIPT CAPITAL I;BLACK-LETTER CAPITAL I;SCRIPT CAPITAL L;SCRIPT SMALL L;L B BAR SYMBOL;",
  "DOUBLE-STRUCK CAPITAL N;NUMERO SIGN;SOUND RECORDING COPYRIGHT;SCRIPT CAPITAL P;DOUBLE-STRUCK ",
  "CAPITAL P;DOUBLE-STRUCK CAPITAL Q;SCRIPT CAPITAL R;BLACK-LETTER CAPITAL R;DOUBLE-STRUCK ",
  "CAPITAL R;PRESCRIPTION TAKE;RESPONSE;SERVICE MARK;TELEPHONE SIGN;TRADE MARK SIGN;VERSICLE;",
  "DOUBLE-STRUCK CAPITAL Z;OUNCE SIGN;OHM SIGN;INVERTED OHM SIGN;BLACK-LETTER CAPITAL Z;TURNED ",
  "GREEK SMALL LETTER IOTA;KELVIN SIGN;ANGSTROM SIGN;SCRIPT CAPITAL B;BLACK-LETTER CAPITAL C;",
  "ESTIMATED SYMBOL;SCRIPT SMALL E;SCRIPT CAPITAL E;SCRIPT CAPITAL F;TURNED CAPITAL F;SCRIPT ",
  "CAPITAL M;SCRIPT SMALL O;ALEF SYMBOL;BET SYMBOL;GIMEL SYMBOL;DALET SYMBOL;INFORMATION SOURCE;",
  "ROTATED CAPITAL Q;FACSIMILE SIGN;DOUBLE-STRUCK SMALL PI;DOUBLE-STRUCK SMALL GAMMA;",
  "DOUBLE-STRUCK CAPITAL GAMMA;DOUBLE-STRUCK CAPITAL PI;DOUBLE-STRUCK N-ARY SUMMATION;TURNED ",
  "SANS-SERIF CAPITAL G;TURNED SANS-SERIF CAPITAL L;REVERSED SANS-SERIF CAPITAL L;TURNED ",
  "SANS-SERIF CAPITAL Y;DOUBLE-STRUCK ITALIC CAPITAL D;DOUBLE-STRUCK ITALIC SMALL D;DOUBLE-STRUCK ",
  "ITALIC SMALL E;DOUBLE-STRUCK ITALIC SMALL I;DOUBLE-STRUCK ITALIC SMALL J;PROPERTY LINE;TURNED ",
  "AMPERSAND;PER SIGN;AKTIESELSKAB;TURNED SMALL F;SYMBOL FOR SAMARITAN SOURCE"]

def mathematicalNames : String := String.join [
  "LEFTWARDS ARROW;UPWARDS ARROW;RIGHTWARDS ARROW;DOWNWARDS ARROW;LEFT RIGHT ARROW;UP DOWN ARROW;",
  "NORTH WEST ARROW;NORTH EAST ARROW;SOUTH EAST ARROW;SOUTH WEST ARROW;LEFTWARDS ARROW WITH ",
  "STROKE;RIGHTWARDS ARROW WITH STROKE;LEFTWARDS WAVE ARROW;RIGHTWARDS WAVE ARROW;LEFTWARDS TWO ",
  "HEADED ARROW;UPWARDS TWO HEADED ARROW;RIGHTWARDS TWO HEADED ARROW;DOWNWARDS TWO HEADED ARROW;",
  "LEFTWARDS ARROW WITH TAIL;RIGHTWARDS ARROW WITH TAIL;LEFTWARDS ARROW FROM BAR;UPWARDS ARROW ",
  "FROM BAR;RIGHTWARDS ARROW FROM BAR;DOWNWARDS ARROW FROM BAR;UP DOWN ARROW WITH BASE;LEFTWARDS ",
  "ARROW WITH HOOK;RIGHTWARDS ARROW WITH HOOK;LEFTWARDS ARROW WITH LOOP;RIGHTWARDS ARROW WITH ",
  "LOOP;LEFT RIGHT WAVE ARROW;LEFT RIGHT ARROW WITH STROKE;DOWNWARDS ZIGZAG ARROW;UPWARDS ARROW ",
  "WITH TIP LEFTWARDS;UPWARDS ARROW WITH TIP RIGHTWARDS;DOWNWARDS ARROW WITH TIP LEFTWARDS;",
  "DOWNWARDS ARROW WITH TIP RIGHTWARDS;RIGHTWARDS ARROW WITH CORNER DOWNWARDS;DOWNWARDS ARROW ",
  "WITH CORNER LEFTWARDS;ANTICLOCKWISE TOP SEMICIRCLE ARROW;CLOCKWISE TOP SEMICIRCLE ARROW;NORTH ",
  "WEST ARROW TO LONG BAR;LEFTWARDS ARROW TO BAR OVER RIGHTWARDS ARROW TO BAR;ANTICLOCKWISE OPEN ",
  "CIRCLE ARROW;CLOCKWISE OPEN CIRCLE ARROW;LEFTWARDS HARPOON WITH BARB UPWARDS;LEFTWARDS HARPOON ",
  "WITH BARB DOWNWARDS;UPWARDS HARPOON WITH BARB RIGHTWARDS;UPWARDS HARPOON WITH BARB LEFTWARDS;",
  "RIGHTWARDS HARPOON WITH BARB UPWARDS;RIGHTWARDS HARPOON WITH BARB DOWNWARDS;DOWNWARDS HARPOON ",
  "WITH BARB RIGHTWARDS;DOWNWARDS HARPOON WITH BARB LEFTWARDS;RIGHTWARDS ARROW OVER LEFTWARDS ",
  "ARROW;UPWARDS ARROW LEFTWARDS OF DOWNWARDS ARROW;LEFTWARDS ARROW OVER RIGHTWARDS ARROW;",
  "LEFTWARDS PAIRED ARROWS;UPWARDS PAIRED ARROWS;RIGHTWARDS PAIRED ARROWS;DOWNWARDS PAIRED ",
  "ARROWS;LEFTWARDS HARPOON OVER RIGHTWARDS HARPOON;RIGHTWARDS HARPOON OVER LEFTWARDS HARPOON;",
  "LEFTWARDS DOUBLE ARROW WITH STROKE;LEFT RIGHT DOUBLE ARROW WITH STROKE;RIGHTWARDS DOUBLE ARROW ",
  "WITH STROKE;LEFTWARDS DOUBLE ARROW;UPWARDS DOUBLE ARROW;RIGHTWARDS DOUBLE ARROW;DOWNWARDS ",
  "DOUBLE ARROW;LEFT RIGHT DOUBLE ARROW;UP DOWN DOUBLE ARROW;NORTH WEST DOUBLE ARROW;NORTH EAST ",
  "DOUBLE ARROW;SOUTH EAST DOUBLE ARROW;SOUTH WEST DOUBLE ARROW;LEFTWARDS TRIPLE ARROW;RIGHTWARDS ",
  "TRIPLE ARROW;LEFTWARDS SQUIGGLE ARROW;RIGHTWARDS SQUIGGLE ARROW;UPWARDS ARROW WITH DOUBLE ",
  "STROKE;DOWNWARDS ARROW WITH DOUBLE STROKE;LEFTWARDS DASHED ARROW;UPWARDS DASHED ARROW;",
  "RIGHTWARDS DASHED ARROW;DOWNWARDS DASHED ARROW;LEFTWARDS ARROW TO BAR;RIGHTWARDS ARROW TO BAR;",
  "LEFTWARDS WHITE ARROW;UPWARDS WHITE ARROW;RIGHTWARDS WHITE ARROW;DOWNWARDS WHITE ARROW;UPWARDS ",
  "WHITE ARROW FROM BAR;UPWARDS WHITE ARROW ON PEDESTAL;UPWARDS WHITE ARROW ON PEDESTAL WITH ",
  "HORIZONTAL BAR;UPWARDS WHITE ARROW ON PEDESTAL WITH VERTICAL BAR;UPWARDS WHITE DOUBLE ARROW;",
  "UPWARDS WHITE DOUBLE ARROW ON PEDESTAL;RIGHTWARDS WHITE ARROW FROM WALL;NORTH WEST ARROW TO ",
  "CORNER;SOUTH EAST ARROW TO CORNER;UP DOWN WHITE ARROW;RIGHT ARROW WITH SMALL CIRCLE;DOWNWARDS ",
  "ARROW LEFTWARDS OF UPWARDS ARROW;THREE RIGHTWARDS ARROWS;LEFTWARDS ARROW WITH VERTICAL STROKE;",
  "RIGHTWARDS ARROW WITH VERTICAL STROKE;LEFT RIGHT ARROW WITH VERTICAL STROKE;LEFTWARDS ARROW ",
  "WITH DOUBLE VERTICAL STROKE;RIGHTWARDS ARROW WITH DOUBLE VERTICAL STROKE;LEFT RIGHT ARROW WITH ",
  "DOUBLE VERTICAL STROKE;LEFTWARDS OPEN-HEADED ARROW;RIGHTWARDS OPEN-HEADED ARROW;LEFT RIGHT ",
  "OPEN-HEADED ARROW;FOR ALL;COMPLEMENT;PARTIAL DIFFERENTIAL;THERE EXISTS;THERE DOES NOT EXIST;",
  "EMPTY SET;INCREMENT;NABLA;ELEMENT OF;NOT AN ELEMENT OF;SMALL ELEMENT OF;CONTAINS AS MEMBER;",
  "DOES NOT CONTAIN AS MEMBER;SMALL CONTAINS AS MEMBER;END OF PROOF;N-ARY PRODUCT;N-ARY ",
  "COPRODUCT;N-ARY SUMMATION;MINUS SIGN;MINUS-OR-PLUS SIGN;DOT PLUS;DIVISION SLASH;SET MINUS;",
  "ASTERISK OPERATOR;RING OPERATOR;BULLET OPERATOR;SQUARE ROOT;CUBE ROOT;FOURTH ROOT;PROPORTIONAL ",
  "TO;INFINITY;RIGHT ANGLE;ANGLE;MEASURED ANGLE;SPHERICAL ANGLE;DIVIDES;DOES NOT DIVIDE;PARALLEL ",
  "TO;NOT PARALLEL TO;LOGICAL AND;LOGICAL OR;INTERSECTION;UNION;INTEGRAL;DOUBLE INTEGRAL;TRIPLE ",
  "INTEGRAL;CONTOUR INTEGRAL;SURFACE INTEGRAL;VOLUME INTEGRAL;CLOCKWISE INTEGRAL;CLOCKWISE ",
  "CONTOUR INTEGRAL;ANTICLOCKWISE CONTOUR INTEGRAL;THEREFORE;BECAUSE;RATIO;PROPORTION;DOT MINUS;",
  "EXCESS;GEOMETRIC PROPORTION;HOMOTHETIC;TILDE OPERATOR;REVERSED TILDE;INVERTED LAZY S;SINE ",
  "WAVE;WREATH PRODUCT;NOT TILDE;MINUS TILDE;ASYMPTOTICALLY EQUAL TO;NOT ASYMPTOTICALLY EQUAL TO;",
  "APPROXIMATELY EQUAL TO;APPROXIMATELY BUT NOT ACTUALLY EQUAL TO;NEITHER APPROXIMATELY NOR ",
  "ACTUALLY EQUAL TO;ALMOST EQUAL TO;NOT ALMOST EQUAL TO;ALMOST EQUAL OR EQUAL TO;TRIPLE TILDE;",
  "ALL EQUAL TO;EQUIVALENT TO;GEOMETRICALLY EQUIVALENT TO;DIFFERENCE BETWEEN;APPROACHES THE ",
  "LIMIT;GEOMETRICALLY EQUAL TO;APPROXIMATELY EQUAL TO OR THE IMAGE OF;IMAGE OF OR APPROXIMATELY ",
  "EQUAL TO;COLON EQUALS;EQUALS COLON;RING IN EQUAL TO;RING EQUAL TO;CORRESPONDS TO;ESTIMATES;",
  "EQUIANGULAR TO;STAR EQUALS;DELTA EQUAL TO;EQUAL TO BY DEFINITION;MEASURED BY;QUESTIONED EQUAL ",
  "TO;NOT EQUAL TO;IDENTICAL TO;NOT IDENTICAL TO;STRICTLY EQUIVALENT TO;LESS-THAN OR EQUAL TO;",
  "GREATER-THAN OR EQUAL TO;LESS-THAN OVER EQUAL TO;GREATER-THAN OVER EQUAL TO;LESS-THAN BUT NOT ",
  "EQUAL TO;GREATER-THAN BUT NOT EQUAL TO;MUCH LESS-THAN;MUCH GREATER-THAN;BETWEEN;NOT EQUIVALENT ",
  "TO;NOT LESS-THAN;NOT GREATER-THAN;NEITHER LESS-THAN NOR EQUAL TO;NEITHER GREATER-THAN NOR ",
  "EQUAL TO;LESS-THAN OR EQUIVALENT TO;GREATER-THAN OR EQUIVALENT TO;NEITHER LESS-THAN NOR ",
  "EQUIVALENT TO;NEITHER GREATER-THAN NOR EQUIVALENT TO;LESS-THAN OR GREATER-THAN;GREATER-THAN OR ",
  "LESS-THAN;NEITHER LESS-THAN NOR GREATER-THAN;NEITHER GREATER-THAN NOR LESS-THAN;PRECEDES;",
  "SUCCEEDS;PRECEDES OR EQUAL TO;SUCCEEDS OR EQUAL TO;PRECEDES OR EQUIVALENT TO;SUCCEEDS OR ",
  "EQUIVALENT TO;DOES NOT PRECEDE;DOES NOT SUCCEED;SUBSET OF;SUPERSET OF;NOT A SUBSET OF;NOT A ",
  "SUPERSET OF;SUBSET OF OR EQUAL TO;SUPERSET OF OR EQUAL TO;NEITHER A SUBSET OF NOR EQUAL TO;",
  "NEITHER A SUPERSET OF NOR EQUAL TO;SUBSET OF WITH NOT EQUAL TO;SUPERSET OF WITH NOT EQUAL TO;",
  "MULTISET;MULTISET MULTIPLICATION;MULTISET UNION;SQUARE IMAGE OF;SQUARE ORIGINAL OF;SQUARE ",
  "IMAGE OF OR EQUAL TO;SQUARE ORIGINAL OF OR EQUAL TO;SQUARE CAP;SQUARE CUP;CIRCLED PLUS;CIRCLED ",
  "MINUS;CIRCLED TIMES;CIRCLED DIVISION SLASH;CIRCLED DOT OPERATOR;CIRCLED RING OPERATOR;CIRCLED ",
  "ASTERISK OPERATOR;CIRCLED EQUALS;CIRCLED DASH;SQUARED PLUS;SQUARED MINUS;SQUARED TIMES;SQUARED ",
  "DOT OPERATOR;RIGHT TACK;LEFT TACK;DOWN TACK;UP TACK;ASSERTION;MODELS;TRUE;FORCES;TRIPLE ",
  "VERTICAL BAR RIGHT TURNSTILE;DOUBLE VERTICAL BAR DOUBLE RIGHT TURNSTILE;DOES NOT PROVE;NOT ",
  "TRUE;DOES NOT FORCE;NEGATED DOUBLE VERTICAL BAR DOUBLE RIGHT TURNSTILE;PRECEDES UNDER ",
  "RELATION;SUCCEEDS UNDER RELATION;NORMAL SUBGROUP OF;CONTAINS AS NORMAL SUBGROUP;NORMAL ",
  "SUBGROUP OF OR EQUAL TO;CONTAINS AS NORMAL SUBGROUP OR EQUAL TO;ORIGINAL OF;IMAGE OF;MULTIMAP;",
  "HERMITIAN CONJUGATE MATRIX;INTERCALATE;XOR;NAND;NOR;RIGHT ANGLE WITH ARC;RIGHT TRIANGLE;N-ARY ",
  "LOGICAL AND;N-ARY LOGICAL OR;N-ARY INTERSECTION;N-ARY UNION;DIAMOND OPERATOR;DOT OPERATOR;STAR ",
  "OPERATOR;DIVISION TIMES;BOWTIE;LEFT NORMAL FACTOR SEMIDIRECT PRODUCT;RIGHT NORMAL FACTOR ",
  "SEMIDIRECT PRODUCT;LEFT SEMIDIRECT PRODUCT;RIGHT SEMIDIRECT PRODUCT;REVERSED TILDE EQUALS;",
  "CURLY LOGICAL OR;CURLY LOGICAL AND;DOUBLE SUBSET;DOUBLE SUPERSET;DOUBLE INTERSECTION;DOUBLE ",
  "UNION;PITCHFORK;EQUAL AND PARALLEL TO;LESS-THAN WITH DOT;GREATER-THAN WITH DOT;VERY MUCH ",
  "LESS-THAN;VERY MUCH GREATER-THAN;LESS-THAN EQUAL TO OR GREATER-THAN;GREATER-THAN EQUAL TO OR ",
  "LESS-THAN;EQUAL TO OR LESS-THAN;EQUAL TO OR GREATER-THAN;EQUAL TO OR PRECEDES;EQUAL TO OR ",
  "SUCCEEDS;DOES NOT PRECEDE OR EQUAL;DOES NOT SUCCEED OR EQUAL;NOT SQUARE IMAGE OF OR EQUAL TO;",
  "NOT SQUARE ORIGINAL OF OR EQUAL TO;SQUARE IMAGE OF OR NOT EQUAL TO;SQUARE ORIGINAL OF OR NOT ",
  "EQUAL TO;LESS-THAN BUT NOT EQUIVALENT TO;GREATER-THAN BUT NOT EQUIVALENT TO;PRECEDES BUT NOT ",
  "EQUIVALENT TO;SUCCEEDS BUT NOT EQUIVALENT TO;NOT NORMAL SUBGROUP OF;DOES NOT CONTAIN AS NORMAL ",
  "SUBGROUP;NOT NORMAL SUBGROUP OF OR EQUAL TO;DOES NOT CONTAIN AS NORMAL SUBGROUP OR EQUAL;",
  "VERTICAL ELLIPSIS;MIDLINE HORIZONTAL ELLIPSIS;UP RIGHT DIAGONAL ELLIPSIS;DOWN RIGHT DIAGONAL ",
  "ELLIPSIS;ELEMENT OF WITH LONG HORIZONTAL STROKE;ELEMENT OF WITH VERTICAL BAR AT END OF ",
  "HORIZONTAL STROKE;SMALL ELEMENT OF WITH VERTICAL BAR AT END OF HORIZONTAL STROKE;ELEMENT OF ",
  "WITH DOT ABOVE;ELEMENT OF WITH OVERBAR;SMALL ELEMENT OF WITH OVERBAR;ELEMENT OF WITH UNDERBAR;",
  "ELEMENT OF WITH TWO HORIZONTAL STROKES;CONTAINS WITH LONG HORIZONTAL STROKE;CONTAINS WITH ",
  "VERTICAL BAR AT END OF HORIZONTAL STROKE;SMALL CONTAINS WITH VERTICAL BAR AT END OF HORIZONTAL ",
  "STROKE;CONTAINS WITH OVERBAR;SMALL CONTAINS WITH OVERBAR;Z NOTATION BAG MEMBERSHIP"]

def pictorialNames : String := String.join [
  "BOX DRAWINGS LIGHT HORIZONTAL;BOX DRAWINGS HEAVY HORIZONTAL;BOX DRAWINGS LIGHT VERTICAL;BOX ",
  "DRAWINGS HEAVY VERTICAL;BOX DRAWINGS LIGHT TRIPLE DASH HORIZONTAL;BOX DRAWINGS HEAVY TRIPLE ",
  "DASH HORIZONTAL;BOX DRAWINGS LIGHT TRIPLE DASH VERTICAL;BOX DRAWINGS HEAVY TRIPLE DASH ",
  "VERTICAL;BOX DRAWINGS LIGHT QUADRUPLE DASH HORIZONTAL;BOX DRAWINGS HEAVY QUADRUPLE DASH ",
  "HORIZONTAL;BOX DRAWINGS LIGHT QUADRUPLE DASH VERTICAL;BOX DRAWINGS HEAVY QUADRUPLE DASH ",
  "VERTICAL;BOX DRAWINGS LIGHT DOWN AND RIGHT;BOX DRAWINGS DOWN LIGHT AND RIGHT HEAVY;BOX ",
  "DRAWINGS DOWN HEAVY AND RIGHT LIGHT;BOX DRAWINGS HEAVY DOWN AND RIGHT;BOX DRAWINGS LIGHT DOWN ",
  "AND LEFT;BOX DRAWINGS DOWN LIGHT AND LEFT HEAVY;BOX DRAWINGS DOWN HEAVY AND LEFT LIGHT;BOX ",
  "DRAWINGS HEAVY DOWN AND LEFT;BOX DRAWINGS LIGHT UP AND RIGHT;BOX DRAWINGS UP LIGHT AND RIGHT ",
  "HEAVY;BOX DRAWINGS UP HEAVY AND RIGHT LIGHT;BOX DRAWINGS HEAVY UP AND RIGHT;BOX DRAWINGS LIGHT ",
  "UP AND LEFT;BOX DRAWINGS UP LIGHT AND LEFT HEAVY;BOX DRAWINGS UP HEAVY AND LEFT LIGHT;BOX ",
  "DRAWINGS HEAVY UP AND LEFT;BOX DRAWINGS LIGHT VERTICAL AND RIGHT;BOX DRAWINGS VERTICAL LIGHT ",
  "AND RIGHT HEAVY;BOX DRAWINGS UP HEAVY AND RIGHT DOWN LIGHT;BOX DRAWINGS DOWN HEAVY AND RIGHT ",
  "UP LIGHT;BOX DRAWINGS VERTICAL HEAVY AND RIGHT LIGHT;BOX DRAWINGS DOWN LIGHT AND RIGHT UP ",
  "HEAVY;BOX DRAWINGS UP LIGHT AND RIGHT DOWN HEAVY;BOX DRAWINGS HEAVY VERTICAL AND RIGHT;BOX ",
  "DRAWINGS LIGHT VERTICAL AND LEFT;BOX DRAWINGS VERTICAL LIGHT AND LEFT HEAVY;BOX DRAWINGS UP ",
  "HEAVY AND LEFT DOWN LIGHT;BOX DRAWINGS DOWN HEAVY AND LEFT UP LIGHT;BOX DRAWINGS VERTICAL ",
  "HEAVY AND LEFT LIGHT;BOX DRAWINGS DOWN LIGHT AND LEFT UP HEAVY;BOX DRAWINGS UP LIGHT AND LEFT ",
  "DOWN HEAVY;BOX DRAWINGS HEAVY VERTICAL AND LEFT;BOX DRAWINGS LIGHT DOWN AND HORIZONTAL;BOX ",
  "DRAWINGS LEFT HEAVY AND RIGHT DOWN LIGHT;BOX DRAWINGS RIGHT HEAVY AND LEFT DOWN LIGHT;BOX ",
  "DRAWINGS DOWN LIGHT AND HORIZONTAL HEAVY;BOX DRAWINGS DOWN HEAVY AND HORIZONTAL LIGHT;BOX ",
  "DRAWINGS RIGHT LIGHT AND LEFT DOWN HEAVY;BOX DRAWINGS LEFT LIGHT AND RIGHT DOWN HEAVY;BOX ",
  "DRAWINGS HEAVY DOWN AND HORIZONTAL;BOX DRAWINGS LIGHT UP AND HORIZONTAL;BOX DRAWINGS LEFT ",
  "HEAVY AND RIGHT UP LIGHT;BOX DRAWINGS RIGHT HEAVY AND LEFT UP LIGHT;BOX DRAWINGS UP LIGHT AND ",
  "HORIZONTAL HEAVY;BOX DRAWINGS UP HEAVY AND HORIZONTAL LIGHT;BOX DRAWINGS RIGHT LIGHT AND LEFT ",
  "UP HEAVY;BOX DRAWINGS LEFT LIGHT AND RIGHT UP HEAVY;BOX DRAWINGS HEAVY UP AND HORIZONTAL;BOX ",
  "DRAWINGS LIGHT VERTICAL AND HORIZONTAL;BOX DRAWINGS LEFT HEAVY AND RIGHT VERTICAL LIGHT;BOX ",
  "DRAWINGS RIGHT HEAVY AND LEFT VERTICAL LIGHT;BOX DRAWINGS VERTICAL LIGHT AND HORIZONTAL HEAVY;",
  "BOX DRAWINGS UP HEAVY AND DOWN HORIZONTAL LIGHT;BOX DRAWINGS DOWN HEAVY AND UP HORIZONTAL ",
  "LIGHT;BOX DRAWINGS VERTICAL HEAVY AND HORIZONTAL LIGHT;BOX DRAWINGS LEFT UP HEAVY AND RIGHT ",
  "DOWN LIGHT;BOX DRAWINGS RIGHT UP HEAVY AND LEFT DOWN LIGHT;BOX DRAWINGS LEFT DOWN HEAVY AND ",
  "RIGHT UP LIGHT;BOX DRAWINGS RIGHT DOWN HEAVY AND LEFT UP LIGHT;BOX DRAWINGS DOWN LIGHT AND UP ",
  "HORIZONTAL HEAVY;BOX DRAWINGS UP LIGHT AND DOWN HORIZONTAL HEAVY;BOX DRAWINGS RIGHT LIGHT AND ",
  "LEFT VERTICAL HEAVY;BOX DRAWINGS LEFT LIGHT AND RIGHT VERTICAL HEAVY;BOX DRAWINGS HEAVY ",
  "VERTICAL AND HORIZONTAL;BOX DRAWINGS LIGHT DOUBLE DASH HORIZONTAL;BOX DRAWINGS HEAVY DOUBLE ",
  "DASH HORIZONTAL;BOX DRAWINGS LIGHT DOUBLE DASH VERTICAL;BOX DRAWINGS HEAVY DOUBLE DASH ",
  "VERTICAL;BOX DRAWINGS DOUBLE HORIZONTAL;BOX DRAWINGS DOUBLE VERTICAL;BOX DRAWINGS DOWN SINGLE ",
  "AND RIGHT DOUBLE;BOX DRAWINGS DOWN DOUBLE AND RIGHT SINGLE;BOX DRAWINGS DOUBLE DOWN AND RIGHT;",
  "BOX DRAWINGS DOWN SINGLE AND LEFT DOUBLE;BOX DRAWINGS DOWN DOUBLE AND LEFT SINGLE;BOX DRAWINGS ",
  "DOUBLE DOWN AND LEFT;BOX DRAWINGS UP SINGLE AND RIGHT DOUBLE;BOX DRAWINGS UP DOUBLE AND RIGHT ",
  "SINGLE;BOX DRAWINGS DOUBLE UP AND RIGHT;BOX DRAWINGS UP SINGLE AND LEFT DOUBLE;BOX DRAWINGS UP ",
  "DOUBLE AND LEFT SINGLE;BOX DRAWINGS DOUBLE UP AND LEFT;BOX DRAWINGS VERTICAL SINGLE AND RIGHT ",
  "DOUBLE;BOX DRAWINGS VERTICAL DOUBLE AND RIGHT SINGLE;BOX DRAWINGS DOUBLE VERTICAL AND RIGHT;",
  "BOX DRAWINGS VERTICAL SINGLE AND LEFT DOUBLE;BOX DRAWINGS VERTICAL DOUBLE AND LEFT SINGLE;BOX ",
  "DRAWINGS DOUBLE VERTICAL AND LEFT;BOX DRAWINGS DOWN SINGLE AND HORIZONTAL DOUBLE;BOX DRAWINGS ",
  "DOWN DOUBLE AND HORIZONTAL SINGLE;BOX DRAWINGS DOUBLE DOWN AND HORIZONTAL;BOX DRAWINGS UP ",
  "SINGLE AND HORIZONTAL DOUBLE;BOX DRAWINGS UP DOUBLE AND HORIZONTAL SINGLE;BOX DRAWINGS DOUBLE ",
  "UP AND HORIZONTAL;BOX DRAWINGS VERTICAL SINGLE AND HORIZONTAL DOUBLE;BOX DRAWINGS VERTICAL ",
  "DOUBLE AND HORIZONTAL SINGLE;BOX DRAWINGS DOUBLE VERTICAL AND HORIZONTAL;BOX DRAWINGS LIGHT ",
  "ARC DOWN AND RIGHT;BOX DRAWINGS LIGHT ARC DOWN AND LEFT;BOX DRAWINGS LIGHT ARC UP AND LEFT;BOX ",
  "DRAWINGS LIGHT ARC UP AND RIGHT;BOX DRAWINGS LIGHT DIAGONAL UPPER RIGHT TO LOWER LEFT;BOX ",
  "DRAWINGS LIGHT DIAGONAL UPPER LEFT TO LOWER RIGHT;BOX DRAWINGS LIGHT DIAGONAL CROSS;BOX ",
  "DRAWINGS LIGHT LEFT;BOX DRAWINGS LIGHT UP;BOX DRAWINGS LIGHT RIGHT;BOX DRAWINGS LIGHT DOWN;BOX ",
  "DRAWINGS HEAVY LEFT;BOX DRAWINGS HEAVY UP;BOX DRAWINGS HEAVY RIGHT;BOX DRAWINGS HEAVY DOWN;BOX ",
  "DRAWINGS LIGHT LEFT AND HEAVY RIGHT;BOX DRAWINGS LIGHT UP AND HEAVY DOWN;BOX DRAWINGS HEAVY ",
  "LEFT AND LIGHT RIGHT;BOX DRAWINGS HEAVY UP AND LIGHT DOWN;UPPER HALF BLOCK;LOWER ONE EIGHTH ",
  "BLOCK;LOWER ONE QUARTER BLOCK;LOWER THREE EIGHTHS BLOCK;LOWER HALF BLOCK;LOWER FIVE EIGHTHS ",
  "BLOCK;LOWER THREE QUARTERS BLOCK;LOWER SEVEN EIGHTHS BLOCK;FULL BLOCK;LEFT SEVEN EIGHTHS ",
  "BLOCK;LEFT THREE QUARTERS BLOCK;LEFT FIVE EIGHTHS BLOCK;LEFT HALF BLOCK;LEFT THREE EIGHTHS ",
  "BLOCK;LEFT ONE QUARTER BLOCK;LEFT ONE EIGHTH BLOCK;RIGHT HALF BLOCK;LIGHT SHADE;MEDIUM SHADE;",
  "DARK SHADE;UPPER ONE EIGHTH BLOCK;RIGHT ONE EIGHTH BLOCK;QUADRANT LOWER LEFT;QUADRANT LOWER ",
  "RIGHT;QUADRANT UPPER LEFT;QUADRANT UPPER LEFT AND LOWER LEFT AND LOWER RIGHT;QUADRANT UPPER ",
  "LEFT AND LOWER RIGHT;QUADRANT UPPER LEFT AND UPPER RIGHT AND LOWER LEFT;QUADRANT UPPER LEFT ",
  "AND UPPER RIGHT AND LOWER RIGHT;QUADRANT UPPER RIGHT;QUADRANT UPPER RIGHT AND LOWER LEFT;",
  "QUADRANT UPPER RIGHT AND LOWER LEFT AND LOWER RIGHT;BLACK SQUARE;WHITE SQUARE;WHITE SQUARE ",
  "WITH ROUNDED CORNERS;WHITE SQUARE CONTAINING BLACK SMALL SQUARE;SQUARE WITH HORIZONTAL FILL;",
  "SQUARE WITH VERTICAL FILL;SQUARE WITH ORTHOGONAL CROSSHATCH FILL;SQUARE WITH UPPER LEFT TO ",
  "LOWER RIGHT FILL;SQUARE WITH UPPER RIGHT TO LOWER LEFT FILL;SQUARE WITH DIAGONAL CROSSHATCH ",
  "FILL;BLACK SMALL SQUARE;WHITE SMALL SQUARE;BLACK RECTANGLE;WHITE RECTANGLE;BLACK VERTICAL ",
  "RECTANGLE;WHITE VERTICAL RECTANGLE;BLACK PARALLELOGRAM;WHITE PARALLELOGRAM;BLACK UP-POINTING ",
  "TRIANGLE;WHITE UP-POINTING TRIANGLE;BLACK UP-POINTING SMALL TRIANGLE;WHITE UP-POINTING SMALL ",
  "TRIANGLE;BLACK RIGHT-POINTING TRIANGLE;WHITE RIGHT-POINTING TRIANGLE;BLACK RIGHT-POINTING ",
  "SMALL TRIANGLE;WHITE RIGHT-POINTING SMALL TRIANGLE;BLACK RIGHT-POINTING POINTER;WHITE ",
  "RIGHT-POINTING POINTER;BLACK DOWN-POINTING TRIANGLE;WHITE DOWN-POINTING TRIANGLE;BLACK ",
  "DOWN-POINTING SMALL TRIANGLE;WHITE DOWN-POINTING SMALL TRIANGLE;BLACK LEFT-POINTING TRIANGLE;",
  "WHITE LEFT-POINTING TRIANGLE;BLACK LEFT-POINTING SMALL TRIANGLE;WHITE LEFT-POINTING SMALL ",
  "TRIANGLE;BLACK LEFT-POINTING POINTER;WHITE LEFT-POINTING POINTER;BLACK DIAMOND;WHITE DIAMOND;",
  "WHITE DIAMOND CONTAINING BLACK SMALL DIAMOND;FISHEYE;LOZENGE;WHITE CIRCLE;DOTTED CIRCLE;CIRCLE ",
  "WITH VERTICAL FILL;BULLSEYE;BLACK CIRCLE;CIRCLE WITH LEFT HALF BLACK;CIRCLE WITH RIGHT HALF ",
  "BLACK;CIRCLE WITH LOWER HALF BLACK;CIRCLE WITH UPPER HALF BLACK;CIRCLE WITH UPPER RIGHT ",
  "QUADRANT BLACK;CIRCLE WITH ALL BUT UPPER LEFT QUADRANT BLACK;LEFT HALF BLACK CIRCLE;RIGHT HALF ",
  "BLACK CIRCLE;INVERSE BULLET;INVERSE WHITE CIRCLE;UPPER HALF INVERSE WHITE CIRCLE;LOWER HALF ",
  "INVERSE WHITE CIRCLE;UPPER LEFT QUADRANT CIRCULAR ARC;UPPER RIGHT QUADRANT CIRCULAR ARC;LOWER ",
  "RIGHT QUADRANT CIRCULAR ARC;LOWER LEFT QUADRANT CIRCULAR ARC;UPPER HALF CIRCLE;LOWER HALF ",
  "CIRCLE;BLACK LOWER RIGHT TRIANGLE;BLACK LOWER LEFT TRIANGLE;BLACK UPPER LEFT TRIANGLE;BLACK ",
  "UPPER RIGHT TRIANGLE;WHITE BULLET;SQUARE WITH LEFT HALF BLACK;SQUARE WITH RIGHT HALF BLACK;",
  "SQUARE WITH UPPER LEFT DIAGONAL HALF BLACK;SQUARE WITH LOWER RIGHT DIAGONAL HALF BLACK;WHITE ",
  "SQUARE WITH VERTICAL BISECTING LINE;WHITE UP-POINTING TRIANGLE WITH DOT;UP-POINTING TRIANGLE ",
  "WITH LEFT HALF BLACK;UP-POINTING TRIANGLE WITH RIGHT HALF BLACK;LARGE CIRCLE;WHITE SQUARE WITH ",
  "UPPER LEFT QUADRANT;WHITE SQUARE WITH LOWER LEFT QUADRANT;WHITE SQUARE WITH LOWER RIGHT ",
  "QUADRANT;WHITE SQUARE WITH UPPER RIGHT QUADRANT;WHITE CIRCLE WITH UPPER LEFT QUADRANT;WHITE ",
  "CIRCLE WITH LOWER LEFT QUADRANT;WHITE CIRCLE WITH LOWER RIGHT QUADRANT;WHITE CIRCLE WITH UPPER ",
  "RIGHT QUADRANT;UPPER LEFT TRIANGLE;UPPER RIGHT TRIANGLE;LOWER LEFT TRIANGLE;WHITE MEDIUM ",
  "SQUARE;BLACK MEDIUM SQUARE;WHITE MEDIUM SMALL SQUARE;BLACK MEDIUM SMALL SQUARE;LOWER RIGHT ",
  "TRIANGLE;BLACK SUN WITH RAYS;CLOUD;UMBRELLA;SNOWMAN;COMET;BLACK STAR;WHITE STAR;LIGHTNING;",
  "THUNDERSTORM;SUN;ASCENDING NODE;DESCENDING NODE;CONJUNCTION;OPPOSITION;BLACK TELEPHONE;WHITE ",
  "TELEPHONE;BALLOT BOX;BALLOT BOX WITH CHECK;BALLOT BOX WITH X;SALTIRE;UMBRELLA WITH RAIN DROPS;",
  "HOT BEVERAGE;WHITE SHOGI PIECE;BLACK SHOGI PIECE;SHAMROCK;REVERSED ROTATED FLORAL HEART ",
  "BULLET;BLACK LEFT POINTING INDEX;BLACK RIGHT POINTING INDEX;WHITE LEFT POINTING INDEX;WHITE UP ",
  "POINTING INDEX;WHITE RIGHT POINTING INDEX;WHITE DOWN POINTING INDEX;SKULL AND CROSSBONES;",
  "CAUTION SIGN;RADIOACTIVE SIGN;BIOHAZARD SIGN;CADUCEUS;ANKH;ORTHODOX CROSS;CHI RHO;CROSS OF ",
  "LORRAINE;CROSS OF JERUSALEM;STAR AND CRESCENT;FARSI SYMBOL;ADI SHAKTI;HAMMER AND SICKLE;PEACE ",
  "SYMBOL;YIN YANG;TRIGRAM FOR HEAVEN;TRIGRAM FOR LAKE;TRIGRAM FOR FIRE;TRIGRAM FOR THUNDER;",
  "TRIGRAM FOR WIND;TRIGRAM FOR WATER;TRIGRAM FOR MOUNTAIN;TRIGRAM FOR EARTH;WHEEL OF DHARMA;",
  "WHITE FROWNING FACE;WHITE SMILING FACE;BLACK SMILING FACE;WHITE SUN WITH RAYS;FIRST QUARTER ",
  "MOON;LAST QUARTER MOON;MERCURY;FEMALE SIGN;EARTH;MALE SIGN;JUPITER;SATURN;URANUS;NEPTUNE;",
  "PLUTO;ARIES;TAURUS;GEMINI;CANCER;LEO;VIRGO;LIBRA;SCORPIUS;SAGITTARIUS;CAPRICORN;AQUARIUS;",
  "PISCES;WHITE CHESS KING;WHITE CHESS QUEEN;WHITE CHESS ROOK;WHITE CHESS BISHOP;WHITE CHESS ",
  "KNIGHT;WHITE CHESS PAWN;BLACK CHESS KING;BLACK CHESS QUEEN;BLACK CHESS ROOK;BLACK CHESS ",
  "BISHOP;BLACK CHESS KNIGHT;BLACK CHESS PAWN;BLACK SPADE SUIT;WHITE HEART SUIT;WHITE DIAMOND ",
  "SUIT;BLACK CLUB SUIT;WHITE SPADE SUIT;BLACK HEART SUIT;BLACK DIAMOND SUIT;WHITE CLUB SUIT;HOT ",
  "SPRINGS;QUARTER NOTE;EIGHTH NOTE;BEAMED EIGHTH NOTES;BEAMED SIXTEENTH NOTES;MUSIC FLAT SIGN;",
  "MUSIC NATURAL SIGN;MUSIC SHARP SIGN;WEST SYRIAC CROSS;EAST SYRIAC CROSS;UNIVERSAL RECYCLING ",
  "SYMBOL;RECYCLING SYMBOL FOR TYPE-1 PLASTICS;RECYCLING SYMBOL FOR TYPE-2 PLASTICS;RECYCLING ",
  "SYMBOL FOR TYPE-3 PLASTICS;RECYCLING SYMBOL FOR TYPE-4 PLASTICS;RECYCLING SYMBOL FOR TYPE-5 ",
  "PLASTICS;RECYCLING SYMBOL FOR TYPE-6 PLASTICS;RECYCLING SYMBOL FOR TYPE-7 PLASTICS;RECYCLING ",
  "SYMBOL FOR GENERIC MATERIALS;BLACK UNIVERSAL RECYCLING SYMBOL;RECYCLED PAPER SYMBOL;",
  "PARTIALLY-RECYCLED PAPER SYMBOL;PERMANENT PAPER SIGN;WHEELCHAIR SYMBOL;DIE FACE-1;DIE FACE-2;",
  "DIE FACE-3;DIE FACE-4;DIE FACE-5;DIE FACE-6;WHITE CIRCLE WITH DOT RIGHT;WHITE CIRCLE WITH TWO ",
  "DOTS;BLACK CIRCLE WITH WHITE DOT RIGHT;BLACK CIRCLE WITH TWO WHITE DOTS;MONOGRAM FOR YANG;",
  "MONOGRAM FOR YIN;DIGRAM FOR GREATER YANG;DIGRAM FOR LESSER YIN;DIGRAM FOR LESSER YANG;DIGRAM ",
  "FOR GREATER YIN;WHITE FLAG;BLACK FLAG;HAMMER AND PICK;ANCHOR;CROSSED SWORDS;STAFF OF ",
  "AESCULAPIUS;SCALES;ALEMBIC;FLOWER;GEAR;STAFF OF HERMES;ATOM SYMBOL;FLEUR-DE-LIS;OUTLINED WHITE ",
  "STAR;THREE LINES CONVERGING RIGHT;THREE LINES CONVERGING LEFT;WARNING SIGN;HIGH VOLTAGE SIGN;",
  "DOUBLED FEMALE SIGN;DOUBLED MALE SIGN;INTERLOCKED FEMALE AND MALE SIGN;MALE AND FEMALE SIGN;",
  "MALE WITH STROKE SIGN;MALE WITH STROKE AND MALE AND FEMALE SIGN;VERTICAL MALE WITH STROKE ",
  "SIGN;HORIZONTAL MALE WITH STROKE SIGN;MEDIUM WHITE CIRCLE;MEDIUM BLACK CIRCLE;MEDIUM SMALL ",
  "WHITE CIRCLE;MARRIAGE SYMBOL;DIVORCE SYMBOL;UNMARRIED PARTNERSHIP SYMBOL;COFFIN;FUNERAL URN;",
  "NEUTER;CERES;PALLAS;JUNO;VESTA;CHIRON;BLACK MOON LILITH;SEXTILE;SEMISEXTILE;QUINCUNX;",
  "SESQUIQUADRATE;SOCCER BALL;BASEBALL;SQUARED KEY;WHITE DRAUGHTS MAN;WHITE DRAUGHTS KING;BLACK ",
  "DRAUGHTS MAN;BLACK DRAUGHTS KING;SNOWMAN WITHOUT SNOW;SUN BEHIND CLOUD;RAIN;BLACK SNOWMAN;",
  "THUNDER CLOUD AND RAIN;TURNED WHITE SHOGI PIECE;TURNED BLACK SHOGI PIECE;WHITE DIAMOND IN ",
  "SQUARE;CROSSING LANES;DISABLED CAR;OPHIUCHUS;PICK;CAR SLIDING;HELMET WITH WHITE CROSS;CIRCLED ",
  "CROSSING LANES;CHAINS;NO ENTRY;ALTERNATE ONE-WAY LEFT WAY TRAFFIC;BLACK TWO-WAY LEFT WAY ",
  "TRAFFIC;WHITE TWO-WAY LEFT WAY TRAFFIC;BLACK LEFT LANE MERGE;WHITE LEFT LANE MERGE;DRIVE SLOW ",
  "SIGN;HEAVY WHITE DOWN-POINTING TRIANGLE;LEFT CLOSED ENTRY;SQUARED SALTIRE;FALLING DIAGONAL IN ",
  "WHITE CIRCLE IN BLACK SQUARE;BLACK TRUCK;RESTRICTED LEFT ENTRY-1;RESTRICTED LEFT ENTRY-2;",
  "ASTRONOMICAL SYMBOL FOR URANUS;HEAVY CIRCLE WITH STROKE AND TWO DOTS ABOVE;PENTAGRAM;",
  "RIGHT-HANDED INTERLACED PENTAGRAM;LEFT-HANDED INTERLACED PENTAGRAM;INVERTED PENTAGRAM;BLACK ",
  "CROSS ON SHIELD;SHINTO SHRINE;CHURCH;CASTLE;HISTORIC SITE;GEAR WITHOUT HUB;GEAR WITH HANDLES;",
  "MAP SYMBOL FOR LIGHTHOUSE;MOUNTAIN;UMBRELLA ON GROUND;FOUNTAIN;FLAG IN HOLE;FERRY;SAILBOAT;",
  "SQUARE FOUR CORNERS;SKIER;ICE SKATE;PERSON WITH BALL;TENT;JAPANESE BANK SYMBOL;HEADSTONE ",
  "GRAVEYARD SYMBOL;FUEL PUMP;CUP ON BLACK SQUARE;WHITE FLAG WITH HORIZONTAL MIDDLE BLACK STRIPE;",
  "BLACK SAFETY SCISSORS;UPPER BLADE SCISSORS;BLACK SCISSORS;LOWER BLADE SCISSORS;WHITE SCISSORS;",
  "WHITE HEAVY CHECK MARK;TELEPHONE LOCATION SIGN;TAPE DRIVE;AIRPLANE;ENVELOPE;RAISED FIST;RAISED ",
  "HAND;VICTORY HAND;WRITING HAND;LOWER RIGHT PENCIL;PENCIL;UPPER RIGHT PENCIL;WHITE NIB;BLACK ",
  "NIB;CHECK MARK;HEAVY CHECK MARK;MULTIPLICATION X;HEAVY MULTIPLICATION X;BALLOT X;HEAVY BALLOT ",
  "X;OUTLINED GREEK CROSS;HEAVY GREEK CROSS;OPEN CENTRE CROSS;HEAVY OPEN CENTRE CROSS;LATIN ",
  "CROSS;SHADOWED WHITE LATIN CROSS;OUTLINED LATIN CROSS;MALTESE CROSS;STAR OF DAVID;FOUR ",
  "TEARDROP-SPOKED ASTERISK;FOUR BALLOON-SPOKED ASTERISK;HEAVY FOUR BALLOON-SPOKED ASTERISK;FOUR ",
  "CLUB-SPOKED ASTERISK;BLACK FOUR POINTED STAR;WHITE FOUR POINTED STAR;SPARKLES;STRESS OUTLINED ",
  "WHITE STAR;CIRCLED WHITE STAR;OPEN CENTRE BLACK STAR;BLACK CENTRE WHITE STAR;OUTLINED BLACK ",
  "STAR;HEAVY OUTLINED BLACK STAR;PINWHEEL STAR;SHADOWED WHITE STAR;HEAVY ASTERISK;OPEN CENTRE ",
  "ASTERISK;EIGHT SPOKED ASTERISK;EIGHT POINTED BLACK STAR;EIGHT POINTED PINWHEEL STAR;SIX ",
  "POINTED BLACK STAR;EIGHT POINTED RECTILINEAR BLACK STAR;HEAVY EIGHT POINTED RECTILINEAR BLACK ",
  "STAR;TWELVE POINTED BLACK STAR;SIXTEEN POINTED ASTERISK;TEARDROP-SPOKED ASTERISK;OPEN CENTRE ",
  "TEARDROP-SPOKED ASTERISK;HEAVY TEARDROP-SPOKED ASTERISK;SIX PETALLED BLACK AND WHITE FLORETTE;",
  "BLACK FLORETTE;WHITE FLORETTE;EIGHT PETALLED OUTLINED BLACK FLORETTE;CIRCLED OPEN CENTRE EIGHT ",
  "POINTED STAR;HEAVY TEARDROP-SPOKED PINWHEEL ASTERISK;SNOWFLAKE;TIGHT TRIFOLIATE SNOWFLAKE;",
  "HEAVY CHEVRON SNOWFLAKE;SPARKLE;HEAVY SPARKLE;BALLOON-SPOKED ASTERISK;EIGHT TEARDROP-SPOKED ",
  "PROPELLER ASTERISK;HEAVY EIGHT TEARDROP-SPOKED PROPELLER ASTERISK;CROSS MARK;SHADOWED WHITE ",
  "CIRCLE;NEGATIVE SQUARED CROSS MARK;LOWER RIGHT DROP-SHADOWED WHITE SQUARE;UPPER RIGHT ",
  "DROP-SHADOWED WHITE SQUARE;LOWER RIGHT SHADOWED WHITE SQUARE;UPPER RIGHT SHADOWED WHITE ",
  "SQUARE;BLACK QUESTION MARK ORNAMENT;WHITE QUESTION MARK ORNAMENT;WHITE EXCLAMATION MARK ",
  "ORNAMENT;BLACK DIAMOND MINUS WHITE X;HEAVY EXCLAMATION MARK SYMBOL;LIGHT VERTICAL BAR;MEDIUM ",
  "VERTICAL BAR;HEAVY VERTICAL BAR;HEAVY SINGLE TURNED COMMA QUOTATION MARK ORNAMENT;HEAVY SINGLE ",
  "COMMA QUOTATION MARK ORNAMENT;HEAVY DOUBLE TURNED COMMA QUOTATION MARK ORNAMENT;HEAVY DOUBLE ",
  "COMMA QUOTATION MARK ORNAMENT;HEAVY LOW SINGLE COMMA QUOTATION MARK ORNAMENT;HEAVY LOW DOUBLE ",
  "COMMA QUOTATION MARK ORNAMENT;CURVED STEM PARAGRAPH SIGN ORNAMENT;HEAVY EXCLAMATION MARK ",
  "ORNAMENT;HEAVY HEART EXCLAMATION MARK ORNAMENT;HEAVY BLACK HEART;ROTATED HEAVY BLACK HEART ",
  "BULLET;FLORAL HEART;ROTATED FLORAL HEART BULLET;MEDIUM LEFT PARENTHESIS ORNAMENT;MEDIUM RIGHT ",
  "PARENTHESIS ORNAMENT;MEDIUM FLATTENED LEFT PARENTHESIS ORNAMENT;MEDIUM FLATTENED RIGHT ",
  "PARENTHESIS ORNAMENT;MEDIUM LEFT-POINTING ANGLE BRACKET ORNAMENT;MEDIUM RIGHT-POINTING ANGLE ",
  "BRACKET ORNAMENT;HEAVY LEFT-POINTING ANGLE QUOTATION MARK ORNAMENT;HEAVY RIGHT-POINTING ANGLE ",
  "QUOTATION MARK ORNAMENT;HEAVY LEFT-POINTING ANGLE BRACKET ORNAMENT;HEAVY RIGHT-POINTING ANGLE ",
  "BRACKET ORNAMENT;LIGHT LEFT TORTOISE SHELL BRACKET ORNAMENT;LIGHT RIGHT TORTOISE SHELL BRACKET ",
  "ORNAMENT;MEDIUM LEFT CURLY BRACKET ORNAMENT;MEDIUM RIGHT CURLY BRACKET ORNAMENT;DINGBAT ",
  "NEGATIVE CIRCLED DIGIT ONE;DINGBAT NEGATIVE CIRCLED DIGIT TWO;DINGBAT NEGATIVE CIRCLED DIGIT ",
  "THREE;DINGBAT NEGATIVE CIRCLED DIGIT FOUR;DINGBAT NEGATIVE CIRCLED DIGIT FIVE;DINGBAT NEGATIVE ",
  "CIRCLED DIGIT SIX;DINGBAT NEGATIVE CIRCLED DIGIT SEVEN;DINGBAT NEGATIVE CIRCLED DIGIT EIGHT;",
  "DINGBAT NEGATIVE CIRCLED DIGIT NINE;DINGBAT NEGATIVE CIRCLED NUMBER TEN;DINGBAT CIRCLED ",
  "SANS-SERIF DIGIT ONE;DINGBAT CIRCLED SANS-SERIF DIGIT TWO;DINGBAT CIRCLED SANS-SERIF DIGIT ",
  "THREE;DINGBAT CIRCLED SANS-SERIF DIGIT FOUR;DINGBAT CIRCLED SANS-SERIF DIGIT FIVE;DINGBAT ",
  "CIRCLED SANS-SERIF DIGIT SIX;DINGBAT CIRCLED SANS-SERIF DIGIT SEVEN;DINGBAT CIRCLED SANS-SERIF ",
  "DIGIT EIGHT;DINGBAT CIRCLED SANS-SERIF DIGIT NINE;DINGBAT CIRCLED SANS-SERIF NUMBER TEN;",
  "DINGBAT NEGATIVE CIRCLED SANS-SERIF DIGIT ONE;DINGBAT NEGATIVE CIRCLED SANS-SERIF DIGIT TWO;",
  "DINGBAT NEGATIVE CIRCLED SANS-SERIF DIGIT THREE;DINGBAT NEGATIVE CIRCLED SANS-SERIF DIGIT ",
  "FOUR;DINGBAT NEGATIVE CIRCLED SANS-SERIF DIGIT FIVE;DINGBAT NEGATIVE CIRCLED SANS-SERIF DIGIT ",
  "SIX;DINGBAT NEGATIVE CIRCLED SANS-SERIF DIGIT SEVEN;DINGBAT NEGATIVE CIRCLED SANS-SERIF DIGIT ",
  "EIGHT;DINGBAT NEGATIVE CIRCLED SANS-SERIF DIGIT NINE;DINGBAT NEGATIVE CIRCLED SANS-SERIF ",
  "NUMBER TEN;HEAVY WIDE-HEADED RIGHTWARDS ARROW;HEAVY PLUS SIGN;HEAVY MINUS SIGN;HEAVY DIVISION ",
  "SIGN;HEAVY SOUTH EAST ARROW;HEAVY RIGHTWARDS ARROW;HEAVY NORTH EAST ARROW;DRAFTING POINT ",
  "RIGHTWARDS ARROW;HEAVY ROUND-TIPPED RIGHTWARDS ARROW;TRIANGLE-HEADED RIGHTWARDS ARROW;HEAVY ",
  "TRIANGLE-HEADED RIGHTWARDS ARROW;DASHED TRIANGLE-HEADED RIGHTWARDS ARROW;HEAVY DASHED ",
  "TRIANGLE-HEADED RIGHTWARDS ARROW;BLACK RIGHTWARDS ARROW;THREE-D TOP-LIGHTED RIGHTWARDS ",
  "ARROWHEAD;THREE-D BOTTOM-LIGHTED RIGHTWARDS ARROWHEAD;BLACK RIGHTWARDS ARROWHEAD;HEAVY BLACK ",
  "CURVED DOWNWARDS AND RIGHTWARDS ARROW;HEAVY BLACK CURVED UPWARDS AND RIGHTWARDS ARROW;SQUAT ",
  "BLACK RIGHTWARDS ARROW;HEAVY CONCAVE-POINTED BLACK RIGHTWARDS ARROW;RIGHT-SHADED WHITE ",
  "RIGHTWARDS ARROW;LEFT-SHADED WHITE RIGHTWARDS ARROW;BACK-TILTED SHADOWED WHITE RIGHTWARDS ",
  "ARROW;FRONT-TILTED SHADOWED WHITE RIGHTWARDS ARROW;HEAVY LOWER RIGHT-SHADOWED WHITE RIGHTWARDS ",
  "ARROW;HEAVY UPPER RIGHT-SHADOWED WHITE RIGHTWARDS ARROW;NOTCHED LOWER RIGHT-SHADOWED WHITE ",
  "RIGHTWARDS ARROW;CURLY LOOP;NOTCHED UPPER RIGHT-SHADOWED WHITE RIGHTWARDS ARROW;CIRCLED HEAVY ",
  "WHITE RIGHTWARDS ARROW;WHITE-FEATHERED RIGHTWARDS ARROW;BLACK-FEATHERED SOUTH EAST ARROW;",
  "BLACK-FEATHERED RIGHTWARDS ARROW;BLACK-FEATHERED NORTH EAST ARROW;HEAVY BLACK-FEATHERED SOUTH ",
  "EAST ARROW;HEAVY BLACK-FEATHERED RIGHTWARDS ARROW;HEAVY BLACK-FEATHERED NORTH EAST ARROW;",
  "TEARDROP-BARBED RIGHTWARDS ARROW;HEAVY TEARDROP-SHANKED RIGHTWARDS ARROW;WEDGE-TAILED ",
  "RIGHTWARDS ARROW;HEAVY WEDGE-TAILED RIGHTWARDS ARROW;OPEN-OUTLINED RIGHTWARDS ARROW;DOUBLE ",
  "CURLY LOOP"]

def facesNames : String := String.join [
  "GRINNING FACE;GRINNING FACE WITH SMILING EYES;FACE WITH TEARS OF JOY;SMILING FACE WITH OPEN ",
  "MOUTH;SMILING FACE WITH OPEN MOUTH AND SMILING EYES;SMILING FACE WITH OPEN MOUTH AND COLD ",
  "SWEAT;SMILING FACE WITH OPEN MOUTH AND TIGHTLY-CLOSED EYES;SMILING FACE WITH HALO;SMILING FACE ",
  "WITH HORNS;WINKING FACE;SMILING FACE WITH SMILING EYES;FACE SAVOURING DELICIOUS FOOD;RELIEVED ",
  "FACE;SMILING FACE WITH HEART-SHAPED EYES;SMILING FACE WITH SUNGLASSES;SMIRKING FACE;NEUTRAL ",
  "FACE;EXPRESSIONLESS FACE;UNAMUSED FACE;FACE WITH COLD SWEAT;PENSIVE FACE;CONFUSED FACE;",
  "CONFOUNDED FACE;KISSING FACE;FACE THROWING A KISS;KISSING FACE WITH SMILING EYES;KISSING FACE ",
  "WITH CLOSED EYES;FACE WITH STUCK-OUT TONGUE;FACE WITH STUCK-OUT TONGUE AND WINKING EYE;FACE ",
  "WITH STUCK-OUT TONGUE AND TIGHTLY-CLOSED EYES;DISAPPOINTED FACE;WORRIED FACE;ANGRY FACE;",
  "POUTING FACE;CRYING FACE;PERSEVERING FACE;FACE WITH LOOK OF TRIUMPH;DISAPPOINTED BUT RELIEVED ",
  "FACE;FROWNING FACE WITH OPEN MOUTH;ANGUISHED FACE;FEARFUL FACE;WEARY FACE;SLEEPY FACE;TIRED ",
  "FACE;GRIMACING FACE;LOUDLY CRYING FACE;FACE WITH OPEN MOUTH;HUSHED FACE;FACE WITH OPEN MOUTH ",
  "AND COLD SWEAT;FACE SCREAMING IN FEAR;ASTONISHED FACE;FLUSHED FACE;SLEEPING FACE;DIZZY FACE;",
  "FACE WITHOUT MOUTH;FACE WITH MEDICAL MASK;GRINNING CAT FACE WITH SMILING EYES;CAT FACE WITH ",
  "TEARS OF JOY;SMILING CAT FACE WITH OPEN MOUTH;SMILING CAT FACE WITH HEART-SHAPED EYES;CAT FACE ",
  "WITH WRY SMILE;KISSING CAT FACE WITH CLOSED EYES;POUTING CAT FACE;CRYING CAT FACE;WEARY CAT ",
  "FACE;SLIGHTLY FROWNING FACE;SLIGHTLY SMILING FACE;UPSIDE-DOWN FACE;FACE WITH ROLLING EYES;FACE ",
  "WITH NO GOOD GESTURE;FACE WITH OK GESTURE;PERSON BOWING DEEPLY;SEE-NO-EVIL MONKEY;HEAR-NO-EVIL ",
  "MONKEY;SPEAK-NO-EVIL MONKEY;HAPPY PERSON RAISING ONE HAND;PERSON RAISING BOTH HANDS IN ",
  "CELEBRATION;PERSON FROWNING;PERSON WITH POUTING FACE;PERSON WITH FOLDED HANDS"]

/-- The first code point of each block of names, and its names in order. -/
def nameBlocks : List (Nat × String) :=
  [(0x0020, basicLatinNames),
   (0x00A0, latinNames),
   (0x0250, phoneticNames),
   (0x0370, greekNames),
   (0x0400, cyrillicNames),
   (0x2000, punctuationNames),
   (0x20A0, currencyNames),
   (0x2100, letterlikeNames),
   (0x2190, mathematicalNames),
   (0x2500, pictorialNames),
   (0x1F600, facesNames)]

/-- Names outside the blocks, each with its code point: control characters, abbreviations and single
signs. -/
def singleNames : String := String.join [
  "NULL=0;NUL=0;START OF HEADING=1;SOH=1;START OF TEXT=2;STX=2;END OF TEXT=3;ETX=3;END OF ",
  "TRANSMISSION=4;EOT=4;ENQUIRY=5;ENQ=5;ACKNOWLEDGE=6;ACK=6;ALERT=7;BEL=7;BACKSPACE=8;BS=8;",
  "CHARACTER TABULATION=9;HORIZONTAL TABULATION=9;HT=9;TAB=9;LINE FEED=10;NEW LINE=10;END OF ",
  "LINE=10;LF=10;NL=10;EOL=10;LINE TABULATION=11;VERTICAL TABULATION=11;VT=11;FORM FEED=12;FF=12;",
  "CARRIAGE RETURN=13;CR=13;SHIFT OUT=14;LOCKING-SHIFT ONE=14;SO=14;SHIFT IN=15;LOCKING-SHIFT ",
  "ZERO=15;SI=15;DATA LINK ESCAPE=16;DLE=16;DEVICE CONTROL ONE=17;DC1=17;DEVICE CONTROL TWO=18;",
  "DC2=18;DEVICE CONTROL THREE=19;DC3=19;DEVICE CONTROL FOUR=20;DC4=20;NEGATIVE ACKNOWLEDGE=21;",
  "NAK=21;SYNCHRONOUS IDLE=22;SYN=22;END OF TRANSMISSION BLOCK=23;ETB=23;CANCEL=24;CAN=24;END OF ",
  "MEDIUM=25;EOM=25;SUBSTITUTE=26;SUB=26;ESCAPE=27;ESC=27;INFORMATION SEPARATOR FOUR=28;FILE ",
  "SEPARATOR=28;FS=28;INFORMATION SEPARATOR THREE=29;GROUP SEPARATOR=29;GS=29;INFORMATION ",
  "SEPARATOR TWO=30;RECORD SEPARATOR=30;RS=30;INFORMATION SEPARATOR ONE=31;UNIT SEPARATOR=31;",
  "US=31;SP=32;DELETE=127;DEL=127;PADDING CHARACTER=128;PAD=128;HIGH OCTET PRESET=129;HOP=129;",
  "BREAK PERMITTED HERE=130;BPH=130;NO BREAK HERE=131;NBH=131;INDEX=132;IND=132;NEXT LINE=133;",
  "NEL=133;START OF SELECTED AREA=134;SSA=134;END OF SELECTED AREA=135;ESA=135;CHARACTER ",
  "TABULATION SET=136;HORIZONTAL TABULATION SET=136;HTS=136;CHARACTER TABULATION WITH ",
  "JUSTIFICATION=137;HORIZONTAL TABULATION WITH JUSTIFICATION=137;HTJ=137;LINE TABULATION ",
  "SET=138;VERTICAL TABULATION SET=138;VTS=138;PARTIAL LINE FORWARD=139;PARTIAL LINE DOWN=139;",
  "PLD=139;PARTIAL LINE BACKWARD=140;PARTIAL LINE UP=140;PLU=140;REVERSE LINE FEED=141;REVERSE ",
  "INDEX=141;RI=141;SINGLE SHIFT TWO=142;SINGLE-SHIFT-2=142;SS2=142;SINGLE SHIFT THREE=143;",
  "SINGLE-SHIFT-3=143;SS3=143;DEVICE CONTROL STRING=144;DCS=144;PRIVATE USE ONE=145;PRIVATE ",
  "USE-1=145;PU1=145;PRIVATE USE TWO=146;PRIVATE USE-2=146;PU2=146;SET TRANSMIT STATE=147;",
  "STS=147;CANCEL CHARACTER=148;CCH=148;MESSAGE WAITING=149;MW=149;START OF GUARDED AREA=150;",
  "START OF PROTECTED AREA=150;SPA=150;END OF GUARDED AREA=151;END OF PROTECTED AREA=151;EPA=151;",
  "START OF STRING=152;SOS=152;SINGLE GRAPHIC CHARACTER INTRODUCER=153;SGC=153;SINGLE CHARACTER ",
  "INTRODUCER=154;SCI=154;CONTROL SEQUENCE INTRODUCER=155;CSI=155;STRING TERMINATOR=156;ST=156;",
  "OPERATING SYSTEM COMMAND=157;OSC=157;PRIVACY MESSAGE=158;PM=158;APPLICATION PROGRAM ",
  "COMMAND=159;APC=159;NBSP=160;SHY=173;LATIN CAPITAL LETTER GHA=418;LATIN SMALL LETTER GHA=419;",
  "CGJ=847;ZWSP=8203;ZWNJ=8204;ZWJ=8205;LRM=8206;RLM=8207;LRE=8234;RLE=8235;PDF=8236;LRO=8237;",
  "RLO=8238;NNBSP=8239;MMSP=8287;WJ=8288;LRI=8294;RLI=8295;FSI=8296;PDI=8297;WEIERSTRASS ELLIPTIC ",
  "FUNCTION=8472;BYTE ORDER MARK=65279;BOM=65279;ZWNBSP=65279;ZERO WIDTH NO-BREAK SPACE=65279;",
  "VS1=65024;VS2=65025;VS15=65038;VS16=65039;VARIATION SELECTOR-15=65038;VARIATION ",
  "SELECTOR-16=65039;IDEOGRAPHIC SPACE=12288;IDEOGRAPHIC COMMA=12289;IDEOGRAPHIC FULL STOP=12290;",
  "REPLACEMENT CHARACTER=65533;OBJECT REPLACEMENT CHARACTER=65532;KATAKANA LETTER A=12450;",
  "HIRAGANA LETTER A=12354;FULLWIDTH LATIN SMALL LETTER A=65345;FULLWIDTH LATIN CAPITAL LETTER ",
  "A=65313;FULLWIDTH DIGIT ONE=65297;LATIN SMALL LIGATURE FI=64257;PILE OF POO=128169;",
  "SNAKE=128013;ROCKET=128640;PARTY POPPER=127881;HEBREW LETTER ALEF=1488;ARABIC LETTER ",
  "ALEF=1575;ARABIC-INDIC DIGIT ONE=1633;ARABIC-INDIC DIGIT ZERO=1632;DEVANAGARI DIGIT ONE=2407;",
  "DEVANAGARI LETTER A=2309;SUPERSCRIPT ZERO=8304;SUPERSCRIPT FOUR=8308;SUBSCRIPT TWO=8322;",
  "SUBSCRIPT ZERO=8320;ROMAN NUMERAL ONE=8544;CIRCLED DIGIT ONE=9312;MATHEMATICAL BOLD CAPITAL ",
  "A=119808;LATIN CAPITAL LETTER SHARP S=7838;LATIN SMALL LETTER A WITH RING BELOW=7681;DESERET ",
  "CAPITAL LETTER LONG I=66560;DESERET SMALL LETTER LONG I=66600;THAI CHARACTER KO KAI=3585"]

def placeOf? (name : String) : List String → Option Nat
  | [] => none
  | other :: rest => if other == name then some 0 else (placeOf? name rest).map (· + 1)

def blockCode? (name : String) : Option Nat :=
  nameBlocks.findSome? fun (first, names) => (placeOf? name (names.splitOn ";")).map (first + ·)

def singleCode? (name : String) : Option Nat :=
  (singleNames.splitOn ";").findSome? fun entry =>
    match entry.splitOn "=" with
    | [other, code] => if other == name then code.toNat? else none
    | _ => none

/-- The ranges of ideographs that are named by their numbers. -/
def ideographRanges : List (Nat × Nat) :=
  [(0x3400, 0x4DBF), (0x4E00, 0x9FFF), (0x20000, 0x2A6DF), (0x2A700, 0x2B738),
   (0x2B740, 0x2B81D), (0x2B820, 0x2CEA1), (0x2CEB0, 0x2EBE0), (0x30000, 0x3134A)]

def capitalHex? (digits : List Char) : Option Nat :=
  digits.foldl (fun sofar c => sofar.bind fun n =>
    if '0' ≤ c ∧ c ≤ '9' then some (n * 16 + (c.toNat - '0'.toNat))
    else if 'A' ≤ c ∧ c ≤ 'F' then some (n * 16 + (c.toNat - 'A'.toNat + 10))
    else none) (some 0)

def ideographCode? (digits : List Char) : Option Nat :=
  if digits.length == 4 || digits.length == 5 then
    (capitalHex? digits).filter fun n =>
      ideographRanges.any fun (low, high) => low ≤ n && n ≤ high
  else none

def firstSounds : List String :=
  ["G", "GG", "N", "D", "DD", "R", "M", "B", "BB", "S", "SS", "", "J", "JJ", "C", "K", "T", "P",
   "H"]

def middleSounds : List String :=
  ["A", "AE", "YA", "YAE", "EO", "E", "YEO", "YE", "O", "WA", "WAE", "OE", "YO", "U", "WEO", "WE",
   "WI", "YU", "EU", "YI", "I"]

def lastSounds : List String :=
  ["", "G", "GG", "GS", "N", "NJ", "NH", "D", "L", "LG", "LM", "LB", "LS", "LT", "LP", "LH", "M",
   "B", "BS", "S", "SS", "NG", "J", "C", "K", "T", "P", "H"]

/-- The longest of the sounds that a spelling starts with: its place and what follows it. -/
def longestSound? (sounds : List String) (spelling : String) : Option (Nat × String) :=
  (sounds.zipIdx.filter fun (sound, _) => sound.isPrefixOf spelling).foldl
    (fun best (sound, place) =>
      match best with
      | some (_, rest) =>
        if rest.length + sound.length ≤ spelling.length then best
        else some (place, (spelling.drop sound.length).toString)
      | none => some (place, (spelling.drop sound.length).toString)) none

def syllableCode? (spelling : String) : Option Nat := do
  let (first, rest) ← longestSound? firstSounds spelling
  let (middle, rest) ← longestSound? middleSounds rest
  let (last, rest) ← longestSound? lastSounds rest
  if rest.isEmpty then some (0xAC00 + (first * 21 + middle) * 28 + last) else none

def characterNamed? (name : String) : Option Nat :=
  if name.startsWith "HANGUL SYLLABLE " then
    syllableCode? (name.drop "HANGUL SYLLABLE ".length).toString
  else if name.startsWith "CJK UNIFIED IDEOGRAPH-" then
    ideographCode? (name.toList.drop "CJK UNIFIED IDEOGRAPH-".length)
  else if name.isEmpty then none
  else
    let capitals := name.map Char.toUpper
    (blockCode? capitals).or (singleCode? capitals)

end Conformance.Text
