/-!
Characters by their standard names: letters of the European scripts, punctuation, and control
characters with their abbreviations. Case does not matter in names.
-/

namespace PhpAudit

namespace Text

/-- A letter that has a capital and a small form, named without script and case. -/
structure LetterName where
  name : String
  capital : Nat
  small : Nat
  deriving DecidableEq, Repr

def latinLetters : List LetterName :=
  [⟨"A", 0x41, 0x61⟩, ⟨"B", 0x42, 0x62⟩, ⟨"C", 0x43, 0x63⟩, ⟨"D", 0x44, 0x64⟩, ⟨"E", 0x45, 0x65⟩,
    ⟨"F", 0x46, 0x66⟩, ⟨"G", 0x47, 0x67⟩, ⟨"H", 0x48, 0x68⟩, ⟨"I", 0x49, 0x69⟩, ⟨"J", 0x4A, 0x6A⟩,
    ⟨"K", 0x4B, 0x6B⟩, ⟨"L", 0x4C, 0x6C⟩, ⟨"M", 0x4D, 0x6D⟩, ⟨"N", 0x4E, 0x6E⟩, ⟨"O", 0x4F, 0x6F⟩,
    ⟨"P", 0x50, 0x70⟩, ⟨"Q", 0x51, 0x71⟩, ⟨"R", 0x52, 0x72⟩, ⟨"S", 0x53, 0x73⟩, ⟨"T", 0x54, 0x74⟩,
    ⟨"U", 0x55, 0x75⟩, ⟨"V", 0x56, 0x76⟩, ⟨"W", 0x57, 0x77⟩, ⟨"X", 0x58, 0x78⟩, ⟨"Y", 0x59, 0x79⟩,
    ⟨"Z", 0x5A, 0x7A⟩, ⟨"A WITH GRAVE", 0xC0, 0xE0⟩, ⟨"A WITH ACUTE", 0xC1, 0xE1⟩,
    ⟨"A WITH CIRCUMFLEX", 0xC2, 0xE2⟩, ⟨"A WITH TILDE", 0xC3, 0xE3⟩,
    ⟨"A WITH DIAERESIS", 0xC4, 0xE4⟩, ⟨"A WITH RING ABOVE", 0xC5, 0xE5⟩, ⟨"AE", 0xC6, 0xE6⟩,
    ⟨"C WITH CEDILLA", 0xC7, 0xE7⟩, ⟨"E WITH GRAVE", 0xC8, 0xE8⟩, ⟨"E WITH ACUTE", 0xC9, 0xE9⟩,
    ⟨"E WITH CIRCUMFLEX", 0xCA, 0xEA⟩, ⟨"E WITH DIAERESIS", 0xCB, 0xEB⟩,
    ⟨"I WITH GRAVE", 0xCC, 0xEC⟩, ⟨"I WITH ACUTE", 0xCD, 0xED⟩, ⟨"I WITH CIRCUMFLEX", 0xCE, 0xEE⟩,
    ⟨"I WITH DIAERESIS", 0xCF, 0xEF⟩, ⟨"ETH", 0xD0, 0xF0⟩, ⟨"N WITH TILDE", 0xD1, 0xF1⟩,
    ⟨"O WITH GRAVE", 0xD2, 0xF2⟩, ⟨"O WITH ACUTE", 0xD3, 0xF3⟩, ⟨"O WITH CIRCUMFLEX", 0xD4, 0xF4⟩,
    ⟨"O WITH TILDE", 0xD5, 0xF5⟩, ⟨"O WITH DIAERESIS", 0xD6, 0xF6⟩, ⟨"O WITH STROKE", 0xD8, 0xF8⟩,
    ⟨"U WITH GRAVE", 0xD9, 0xF9⟩, ⟨"U WITH ACUTE", 0xDA, 0xFA⟩, ⟨"U WITH CIRCUMFLEX", 0xDB, 0xFB⟩,
    ⟨"U WITH DIAERESIS", 0xDC, 0xFC⟩, ⟨"Y WITH ACUTE", 0xDD, 0xFD⟩, ⟨"THORN", 0xDE, 0xFE⟩,
    ⟨"A WITH MACRON", 0x100, 0x101⟩, ⟨"A WITH BREVE", 0x102, 0x103⟩,
    ⟨"A WITH OGONEK", 0x104, 0x105⟩, ⟨"C WITH ACUTE", 0x106, 0x107⟩,
    ⟨"C WITH CIRCUMFLEX", 0x108, 0x109⟩, ⟨"C WITH DOT ABOVE", 0x10A, 0x10B⟩,
    ⟨"C WITH CARON", 0x10C, 0x10D⟩, ⟨"D WITH CARON", 0x10E, 0x10F⟩, ⟨"D WITH STROKE", 0x110, 0x111⟩,
    ⟨"E WITH MACRON", 0x112, 0x113⟩, ⟨"E WITH BREVE", 0x114, 0x115⟩,
    ⟨"E WITH DOT ABOVE", 0x116, 0x117⟩, ⟨"E WITH OGONEK", 0x118, 0x119⟩,
    ⟨"E WITH CARON", 0x11A, 0x11B⟩, ⟨"G WITH CIRCUMFLEX", 0x11C, 0x11D⟩,
    ⟨"G WITH BREVE", 0x11E, 0x11F⟩, ⟨"G WITH DOT ABOVE", 0x120, 0x121⟩,
    ⟨"G WITH CEDILLA", 0x122, 0x123⟩, ⟨"H WITH CIRCUMFLEX", 0x124, 0x125⟩,
    ⟨"H WITH STROKE", 0x126, 0x127⟩, ⟨"I WITH TILDE", 0x128, 0x129⟩,
    ⟨"I WITH MACRON", 0x12A, 0x12B⟩, ⟨"I WITH BREVE", 0x12C, 0x12D⟩,
    ⟨"I WITH OGONEK", 0x12E, 0x12F⟩, ⟨"J WITH CIRCUMFLEX", 0x134, 0x135⟩,
    ⟨"K WITH CEDILLA", 0x136, 0x137⟩, ⟨"L WITH ACUTE", 0x139, 0x13A⟩,
    ⟨"L WITH CEDILLA", 0x13B, 0x13C⟩, ⟨"L WITH CARON", 0x13D, 0x13E⟩,
    ⟨"L WITH MIDDLE DOT", 0x13F, 0x140⟩, ⟨"L WITH STROKE", 0x141, 0x142⟩,
    ⟨"N WITH ACUTE", 0x143, 0x144⟩, ⟨"N WITH CEDILLA", 0x145, 0x146⟩,
    ⟨"N WITH CARON", 0x147, 0x148⟩, ⟨"ENG", 0x14A, 0x14B⟩, ⟨"O WITH MACRON", 0x14C, 0x14D⟩,
    ⟨"O WITH BREVE", 0x14E, 0x14F⟩, ⟨"O WITH DOUBLE ACUTE", 0x150, 0x151⟩,
    ⟨"R WITH ACUTE", 0x154, 0x155⟩, ⟨"R WITH CEDILLA", 0x156, 0x157⟩,
    ⟨"R WITH CARON", 0x158, 0x159⟩, ⟨"S WITH ACUTE", 0x15A, 0x15B⟩,
    ⟨"S WITH CIRCUMFLEX", 0x15C, 0x15D⟩, ⟨"S WITH CEDILLA", 0x15E, 0x15F⟩,
    ⟨"S WITH CARON", 0x160, 0x161⟩, ⟨"T WITH CEDILLA", 0x162, 0x163⟩,
    ⟨"T WITH CARON", 0x164, 0x165⟩, ⟨"T WITH STROKE", 0x166, 0x167⟩, ⟨"U WITH TILDE", 0x168, 0x169⟩,
    ⟨"U WITH MACRON", 0x16A, 0x16B⟩, ⟨"U WITH BREVE", 0x16C, 0x16D⟩,
    ⟨"U WITH RING ABOVE", 0x16E, 0x16F⟩, ⟨"U WITH DOUBLE ACUTE", 0x170, 0x171⟩,
    ⟨"U WITH OGONEK", 0x172, 0x173⟩, ⟨"W WITH CIRCUMFLEX", 0x174, 0x175⟩,
    ⟨"Y WITH CIRCUMFLEX", 0x176, 0x177⟩, ⟨"Y WITH DIAERESIS", 0x178, 0xFF⟩,
    ⟨"Z WITH ACUTE", 0x179, 0x17A⟩, ⟨"Z WITH DOT ABOVE", 0x17B, 0x17C⟩,
    ⟨"Z WITH CARON", 0x17D, 0x17E⟩, ⟨"S WITH DOT ABOVE", 0x1E60, 0x1E61⟩, ⟨"SHARP S", 0x1E9E, 0xDF⟩]

def greekLetters : List LetterName :=
  [⟨"HETA", 0x370, 0x371⟩, ⟨"ARCHAIC SAMPI", 0x372, 0x373⟩, ⟨"PAMPHYLIAN DIGAMMA", 0x376, 0x377⟩,
    ⟨"ALPHA WITH TONOS", 0x386, 0x3AC⟩, ⟨"EPSILON WITH TONOS", 0x388, 0x3AD⟩,
    ⟨"ETA WITH TONOS", 0x389, 0x3AE⟩, ⟨"IOTA WITH TONOS", 0x38A, 0x3AF⟩,
    ⟨"OMICRON WITH TONOS", 0x38C, 0x3CC⟩, ⟨"UPSILON WITH TONOS", 0x38E, 0x3CD⟩,
    ⟨"OMEGA WITH TONOS", 0x38F, 0x3CE⟩, ⟨"ALPHA", 0x391, 0x3B1⟩, ⟨"BETA", 0x392, 0x3B2⟩,
    ⟨"GAMMA", 0x393, 0x3B3⟩, ⟨"DELTA", 0x394, 0x3B4⟩, ⟨"EPSILON", 0x395, 0x3B5⟩,
    ⟨"ZETA", 0x396, 0x3B6⟩, ⟨"ETA", 0x397, 0x3B7⟩, ⟨"THETA", 0x398, 0x3B8⟩, ⟨"IOTA", 0x399, 0x3B9⟩,
    ⟨"KAPPA", 0x39A, 0x3BA⟩, ⟨"LAMDA", 0x39B, 0x3BB⟩, ⟨"MU", 0x39C, 0x3BC⟩, ⟨"NU", 0x39D, 0x3BD⟩,
    ⟨"XI", 0x39E, 0x3BE⟩, ⟨"OMICRON", 0x39F, 0x3BF⟩, ⟨"PI", 0x3A0, 0x3C0⟩, ⟨"RHO", 0x3A1, 0x3C1⟩,
    ⟨"SIGMA", 0x3A3, 0x3C3⟩, ⟨"TAU", 0x3A4, 0x3C4⟩, ⟨"UPSILON", 0x3A5, 0x3C5⟩,
    ⟨"PHI", 0x3A6, 0x3C6⟩, ⟨"CHI", 0x3A7, 0x3C7⟩, ⟨"PSI", 0x3A8, 0x3C8⟩, ⟨"OMEGA", 0x3A9, 0x3C9⟩,
    ⟨"IOTA WITH DIALYTIKA", 0x3AA, 0x3CA⟩, ⟨"UPSILON WITH DIALYTIKA", 0x3AB, 0x3CB⟩,
    ⟨"SHO", 0x3F7, 0x3F8⟩, ⟨"SAN", 0x3FA, 0x3FB⟩]

def cyrillicLetters : List LetterName :=
  [⟨"IE WITH GRAVE", 0x400, 0x450⟩, ⟨"IO", 0x401, 0x451⟩, ⟨"DJE", 0x402, 0x452⟩,
    ⟨"GJE", 0x403, 0x453⟩, ⟨"UKRAINIAN IE", 0x404, 0x454⟩, ⟨"DZE", 0x405, 0x455⟩,
    ⟨"BYELORUSSIAN-UKRAINIAN I", 0x406, 0x456⟩, ⟨"YI", 0x407, 0x457⟩, ⟨"JE", 0x408, 0x458⟩,
    ⟨"LJE", 0x409, 0x459⟩, ⟨"NJE", 0x40A, 0x45A⟩, ⟨"TSHE", 0x40B, 0x45B⟩, ⟨"KJE", 0x40C, 0x45C⟩,
    ⟨"I WITH GRAVE", 0x40D, 0x45D⟩, ⟨"SHORT U", 0x40E, 0x45E⟩, ⟨"DZHE", 0x40F, 0x45F⟩,
    ⟨"A", 0x410, 0x430⟩, ⟨"BE", 0x411, 0x431⟩, ⟨"VE", 0x412, 0x432⟩, ⟨"GHE", 0x413, 0x433⟩,
    ⟨"DE", 0x414, 0x434⟩, ⟨"IE", 0x415, 0x435⟩, ⟨"ZHE", 0x416, 0x436⟩, ⟨"ZE", 0x417, 0x437⟩,
    ⟨"I", 0x418, 0x438⟩, ⟨"SHORT I", 0x419, 0x439⟩, ⟨"KA", 0x41A, 0x43A⟩, ⟨"EL", 0x41B, 0x43B⟩,
    ⟨"EM", 0x41C, 0x43C⟩, ⟨"EN", 0x41D, 0x43D⟩, ⟨"O", 0x41E, 0x43E⟩, ⟨"PE", 0x41F, 0x43F⟩,
    ⟨"ER", 0x420, 0x440⟩, ⟨"ES", 0x421, 0x441⟩, ⟨"TE", 0x422, 0x442⟩, ⟨"U", 0x423, 0x443⟩,
    ⟨"EF", 0x424, 0x444⟩, ⟨"HA", 0x425, 0x445⟩, ⟨"TSE", 0x426, 0x446⟩, ⟨"CHE", 0x427, 0x447⟩,
    ⟨"SHA", 0x428, 0x448⟩, ⟨"SHCHA", 0x429, 0x449⟩, ⟨"HARD SIGN", 0x42A, 0x44A⟩,
    ⟨"YERU", 0x42B, 0x44B⟩, ⟨"SOFT SIGN", 0x42C, 0x44C⟩, ⟨"E", 0x42D, 0x44D⟩, ⟨"YU", 0x42E, 0x44E⟩,
    ⟨"YA", 0x42F, 0x44F⟩]

/-- Characters that are no letters in two cases. -/
def otherNames : List (String × Nat) :=
  [("NUL", 0x0), ("NULL", 0x0), ("SOH", 0x1), ("START OF HEADING", 0x1), ("START OF TEXT", 0x2),
    ("STX", 0x2), ("END OF TEXT", 0x3), ("ETX", 0x3), ("END OF TRANSMISSION", 0x4), ("EOT", 0x4),
    ("ENQ", 0x5), ("ENQUIRY", 0x5), ("ACK", 0x6), ("ACKNOWLEDGE", 0x6), ("ALERT", 0x7),
    ("BEL", 0x7), ("BACKSPACE", 0x8), ("BS", 0x8), ("CHARACTER TABULATION", 0x9),
    ("HORIZONTAL TABULATION", 0x9), ("HT", 0x9), ("TAB", 0x9), ("END OF LINE", 0xA), ("EOL", 0xA),
    ("LF", 0xA), ("LINE FEED", 0xA), ("NEW LINE", 0xA), ("NL", 0xA), ("LINE TABULATION", 0xB),
    ("VERTICAL TABULATION", 0xB), ("VT", 0xB), ("FF", 0xC), ("FORM FEED", 0xC),
    ("CARRIAGE RETURN", 0xD), ("CR", 0xD), ("LOCKING-SHIFT ONE", 0xE), ("SHIFT OUT", 0xE),
    ("SO", 0xE), ("LOCKING-SHIFT ZERO", 0xF), ("SHIFT IN", 0xF), ("SI", 0xF),
    ("DATA LINK ESCAPE", 0x10), ("DLE", 0x10), ("DC1", 0x11), ("DEVICE CONTROL ONE", 0x11),
    ("DC2", 0x12), ("DEVICE CONTROL TWO", 0x12), ("DC3", 0x13), ("DEVICE CONTROL THREE", 0x13),
    ("DC4", 0x14), ("DEVICE CONTROL FOUR", 0x14), ("NAK", 0x15), ("NEGATIVE ACKNOWLEDGE", 0x15),
    ("SYN", 0x16), ("SYNCHRONOUS IDLE", 0x16), ("END OF TRANSMISSION BLOCK", 0x17), ("ETB", 0x17),
    ("CAN", 0x18), ("CANCEL", 0x18), ("END OF MEDIUM", 0x19), ("EOM", 0x19), ("SUB", 0x1A),
    ("SUBSTITUTE", 0x1A), ("ESC", 0x1B), ("ESCAPE", 0x1B), ("FILE SEPARATOR", 0x1C), ("FS", 0x1C),
    ("INFORMATION SEPARATOR FOUR", 0x1C), ("GROUP SEPARATOR", 0x1D), ("GS", 0x1D),
    ("INFORMATION SEPARATOR THREE", 0x1D), ("INFORMATION SEPARATOR TWO", 0x1E),
    ("RECORD SEPARATOR", 0x1E), ("RS", 0x1E), ("INFORMATION SEPARATOR ONE", 0x1F),
    ("UNIT SEPARATOR", 0x1F), ("US", 0x1F), ("SP", 0x20), ("SPACE", 0x20),
    ("EXCLAMATION MARK", 0x21), ("QUOTATION MARK", 0x22), ("NUMBER SIGN", 0x23),
    ("DOLLAR SIGN", 0x24), ("PERCENT SIGN", 0x25), ("AMPERSAND", 0x26), ("APOSTROPHE", 0x27),
    ("LEFT PARENTHESIS", 0x28), ("RIGHT PARENTHESIS", 0x29), ("ASTERISK", 0x2A),
    ("PLUS SIGN", 0x2B), ("COMMA", 0x2C), ("HYPHEN-MINUS", 0x2D), ("FULL STOP", 0x2E),
    ("SOLIDUS", 0x2F), ("DIGIT ZERO", 0x30), ("DIGIT ONE", 0x31), ("DIGIT TWO", 0x32),
    ("DIGIT THREE", 0x33), ("DIGIT FOUR", 0x34), ("DIGIT FIVE", 0x35), ("DIGIT SIX", 0x36),
    ("DIGIT SEVEN", 0x37), ("DIGIT EIGHT", 0x38), ("DIGIT NINE", 0x39), ("COLON", 0x3A),
    ("SEMICOLON", 0x3B), ("LESS-THAN SIGN", 0x3C), ("EQUALS SIGN", 0x3D),
    ("GREATER-THAN SIGN", 0x3E), ("QUESTION MARK", 0x3F), ("COMMERCIAL AT", 0x40),
    ("LEFT SQUARE BRACKET", 0x5B), ("REVERSE SOLIDUS", 0x5C), ("RIGHT SQUARE BRACKET", 0x5D),
    ("CIRCUMFLEX ACCENT", 0x5E), ("LOW LINE", 0x5F), ("GRAVE ACCENT", 0x60),
    ("LEFT CURLY BRACKET", 0x7B), ("VERTICAL LINE", 0x7C), ("RIGHT CURLY BRACKET", 0x7D),
    ("TILDE", 0x7E), ("DEL", 0x7F), ("DELETE", 0x7F), ("NEL", 0x85), ("NEXT LINE", 0x85),
    ("NBSP", 0xA0), ("NO-BREAK SPACE", 0xA0), ("INVERTED EXCLAMATION MARK", 0xA1),
    ("CENT SIGN", 0xA2), ("POUND SIGN", 0xA3), ("CURRENCY SIGN", 0xA4), ("YEN SIGN", 0xA5),
    ("BROKEN BAR", 0xA6), ("SECTION SIGN", 0xA7), ("DIAERESIS", 0xA8), ("COPYRIGHT SIGN", 0xA9),
    ("FEMININE ORDINAL INDICATOR", 0xAA), ("LEFT-POINTING DOUBLE ANGLE QUOTATION MARK", 0xAB),
    ("NOT SIGN", 0xAC), ("SHY", 0xAD), ("SOFT HYPHEN", 0xAD), ("REGISTERED SIGN", 0xAE),
    ("MACRON", 0xAF), ("DEGREE SIGN", 0xB0), ("PLUS-MINUS SIGN", 0xB1), ("SUPERSCRIPT TWO", 0xB2),
    ("SUPERSCRIPT THREE", 0xB3), ("ACUTE ACCENT", 0xB4), ("MICRO SIGN", 0xB5),
    ("PILCROW SIGN", 0xB6), ("MIDDLE DOT", 0xB7), ("CEDILLA", 0xB8), ("SUPERSCRIPT ONE", 0xB9),
    ("MASCULINE ORDINAL INDICATOR", 0xBA), ("RIGHT-POINTING DOUBLE ANGLE QUOTATION MARK", 0xBB),
    ("VULGAR FRACTION ONE QUARTER", 0xBC), ("VULGAR FRACTION ONE HALF", 0xBD),
    ("VULGAR FRACTION THREE QUARTERS", 0xBE), ("INVERTED QUESTION MARK", 0xBF),
    ("MULTIPLICATION SIGN", 0xD7), ("DIVISION SIGN", 0xF7),
    ("LATIN CAPITAL LETTER I WITH DOT ABOVE", 0x130), ("LATIN SMALL LETTER DOTLESS I", 0x131),
    ("LATIN CAPITAL LIGATURE IJ", 0x132), ("LATIN SMALL LIGATURE IJ", 0x133),
    ("LATIN SMALL LETTER KRA", 0x138), ("LATIN SMALL LETTER N PRECEDED BY APOSTROPHE", 0x149),
    ("LATIN CAPITAL LIGATURE OE", 0x152), ("LATIN SMALL LIGATURE OE", 0x153),
    ("LATIN SMALL LETTER LONG S", 0x17F), ("GREEK NUMERAL SIGN", 0x374),
    ("GREEK LOWER NUMERAL SIGN", 0x375), ("GREEK YPOGEGRAMMENI", 0x37A),
    ("GREEK SMALL REVERSED LUNATE SIGMA SYMBOL", 0x37B),
    ("GREEK SMALL DOTTED LUNATE SIGMA SYMBOL", 0x37C),
    ("GREEK SMALL REVERSED DOTTED LUNATE SIGMA SYMBOL", 0x37D), ("GREEK QUESTION MARK", 0x37E),
    ("GREEK CAPITAL LETTER YOT", 0x37F), ("GREEK TONOS", 0x384), ("GREEK DIALYTIKA TONOS", 0x385),
    ("GREEK ANO TELEIA", 0x387), ("GREEK SMALL LETTER IOTA WITH DIALYTIKA AND TONOS", 0x390),
    ("GREEK SMALL LETTER UPSILON WITH DIALYTIKA AND TONOS", 0x3B0),
    ("GREEK SMALL LETTER FINAL SIGMA", 0x3C2), ("GREEK CAPITAL KAI SYMBOL", 0x3CF),
    ("GREEK BETA SYMBOL", 0x3D0), ("GREEK THETA SYMBOL", 0x3D1),
    ("GREEK UPSILON WITH HOOK SYMBOL", 0x3D2), ("GREEK UPSILON WITH ACUTE AND HOOK SYMBOL", 0x3D3),
    ("GREEK UPSILON WITH DIAERESIS AND HOOK SYMBOL", 0x3D4), ("GREEK PHI SYMBOL", 0x3D5),
    ("GREEK PI SYMBOL", 0x3D6), ("GREEK KAI SYMBOL", 0x3D7), ("GREEK LETTER ARCHAIC KOPPA", 0x3D8),
    ("GREEK SMALL LETTER ARCHAIC KOPPA", 0x3D9), ("GREEK LETTER STIGMA", 0x3DA),
    ("GREEK SMALL LETTER STIGMA", 0x3DB), ("GREEK LETTER DIGAMMA", 0x3DC),
    ("GREEK SMALL LETTER DIGAMMA", 0x3DD), ("GREEK LETTER KOPPA", 0x3DE),
    ("GREEK SMALL LETTER KOPPA", 0x3DF), ("GREEK LETTER SAMPI", 0x3E0),
    ("GREEK SMALL LETTER SAMPI", 0x3E1), ("COPTIC CAPITAL LETTER SHEI", 0x3E2),
    ("COPTIC SMALL LETTER SHEI", 0x3E3), ("COPTIC CAPITAL LETTER FEI", 0x3E4),
    ("COPTIC SMALL LETTER FEI", 0x3E5), ("COPTIC CAPITAL LETTER KHEI", 0x3E6),
    ("COPTIC SMALL LETTER KHEI", 0x3E7), ("COPTIC CAPITAL LETTER HORI", 0x3E8),
    ("COPTIC SMALL LETTER HORI", 0x3E9), ("COPTIC CAPITAL LETTER GANGIA", 0x3EA),
    ("COPTIC SMALL LETTER GANGIA", 0x3EB), ("COPTIC CAPITAL LETTER SHIMA", 0x3EC),
    ("COPTIC SMALL LETTER SHIMA", 0x3ED), ("COPTIC CAPITAL LETTER DEI", 0x3EE),
    ("COPTIC SMALL LETTER DEI", 0x3EF), ("GREEK KAPPA SYMBOL", 0x3F0), ("GREEK RHO SYMBOL", 0x3F1),
    ("GREEK LUNATE SIGMA SYMBOL", 0x3F2), ("GREEK LETTER YOT", 0x3F3),
    ("GREEK CAPITAL THETA SYMBOL", 0x3F4), ("GREEK LUNATE EPSILON SYMBOL", 0x3F5),
    ("GREEK REVERSED LUNATE EPSILON SYMBOL", 0x3F6), ("GREEK CAPITAL LUNATE SIGMA SYMBOL", 0x3F9),
    ("GREEK RHO WITH STROKE SYMBOL", 0x3FC), ("GREEK CAPITAL REVERSED LUNATE SIGMA SYMBOL", 0x3FD),
    ("GREEK CAPITAL DOTTED LUNATE SIGMA SYMBOL", 0x3FE),
    ("GREEK CAPITAL REVERSED DOTTED LUNATE SIGMA SYMBOL", 0x3FF),
    ("LATIN SMALL LETTER LONG S WITH DOT ABOVE", 0x1E9B), ("ZERO WIDTH SPACE", 0x200B),
    ("ZWSP", 0x200B), ("ZERO WIDTH NON-JOINER", 0x200C), ("ZWNJ", 0x200C),
    ("ZERO WIDTH JOINER", 0x200D), ("ZWJ", 0x200D), ("LEFT-TO-RIGHT MARK", 0x200E), ("LRM", 0x200E),
    ("RIGHT-TO-LEFT MARK", 0x200F), ("RLM", 0x200F), ("HYPHEN", 0x2010),
    ("NON-BREAKING HYPHEN", 0x2011), ("FIGURE DASH", 0x2012), ("EN DASH", 0x2013),
    ("EM DASH", 0x2014), ("HORIZONTAL BAR", 0x2015), ("DOUBLE VERTICAL LINE", 0x2016),
    ("DOUBLE LOW LINE", 0x2017), ("LEFT SINGLE QUOTATION MARK", 0x2018),
    ("RIGHT SINGLE QUOTATION MARK", 0x2019), ("SINGLE LOW-9 QUOTATION MARK", 0x201A),
    ("SINGLE HIGH-REVERSED-9 QUOTATION MARK", 0x201B), ("LEFT DOUBLE QUOTATION MARK", 0x201C),
    ("RIGHT DOUBLE QUOTATION MARK", 0x201D), ("DOUBLE LOW-9 QUOTATION MARK", 0x201E),
    ("DOUBLE HIGH-REVERSED-9 QUOTATION MARK", 0x201F), ("DAGGER", 0x2020),
    ("DOUBLE DAGGER", 0x2021), ("BULLET", 0x2022), ("TRIANGULAR BULLET", 0x2023),
    ("ONE DOT LEADER", 0x2024), ("TWO DOT LEADER", 0x2025), ("HORIZONTAL ELLIPSIS", 0x2026),
    ("HYPHENATION POINT", 0x2027), ("LINE SEPARATOR", 0x2028), ("PARAGRAPH SEPARATOR", 0x2029),
    ("PER MILLE SIGN", 0x2030), ("PER TEN THOUSAND SIGN", 0x2031), ("PRIME", 0x2032),
    ("DOUBLE PRIME", 0x2033), ("TRIPLE PRIME", 0x2034), ("REVERSED PRIME", 0x2035),
    ("REVERSED DOUBLE PRIME", 0x2036), ("REVERSED TRIPLE PRIME", 0x2037), ("CARET", 0x2038),
    ("SINGLE LEFT-POINTING ANGLE QUOTATION MARK", 0x2039),
    ("SINGLE RIGHT-POINTING ANGLE QUOTATION MARK", 0x203A), ("REFERENCE MARK", 0x203B),
    ("DOUBLE EXCLAMATION MARK", 0x203C), ("INTERROBANG", 0x203D), ("OVERLINE", 0x203E),
    ("WJ", 0x2060), ("WORD JOINER", 0x2060), ("EURO SIGN", 0x20AC), ("TRADE MARK SIGN", 0x2122),
    ("OHM SIGN", 0x2126), ("KELVIN SIGN", 0x212A), ("ANGSTROM SIGN", 0x212B),
    ("LEFTWARDS ARROW", 0x2190), ("UPWARDS ARROW", 0x2191), ("RIGHTWARDS ARROW", 0x2192),
    ("DOWNWARDS ARROW", 0x2193), ("IDEOGRAPHIC SPACE", 0x3000), ("LATIN SMALL LIGATURE FF", 0xFB00),
    ("LATIN SMALL LIGATURE FI", 0xFB01), ("LATIN SMALL LIGATURE FL", 0xFB02),
    ("LATIN SMALL LIGATURE FFI", 0xFB03), ("LATIN SMALL LIGATURE FFL", 0xFB04),
    ("LATIN SMALL LIGATURE LONG S T", 0xFB05), ("LATIN SMALL LIGATURE ST", 0xFB06), ("BOM", 0xFEFF),
    ("BYTE ORDER MARK", 0xFEFF), ("ZERO WIDTH NO-BREAK SPACE", 0xFEFF), ("ZWNBSP", 0xFEFF),
    ("REPLACEMENT CHARACTER", 0xFFFD)]

/-- The code point of a letter in one of the two cases. -/
def letterCode? (letters : List LetterName) (isCapital : Bool) (name : String) : Option Nat :=
  (letters.find? (·.name == name)).map fun l => if isCapital then l.capital else l.small

/-- What follows the beginning of a name, if it begins so. -/
def after? (start name : List Char) : Option String :=
  if start.isPrefixOf name then some (String.ofList (name.drop start.length)) else none

def letterNamed? (script : String) (letters : List LetterName) (name : List Char) : Option Nat :=
  ((after? (script ++ " CAPITAL LETTER ").toList name).bind (letterCode? letters true)).or
    ((after? (script ++ " SMALL LETTER ").toList name).bind (letterCode? letters false))

/-- The code point of the character with a name. -/
def charNamed? (name : List Char) : Option Nat :=
  let name := name.map Char.toUpper
  (letterNamed? "LATIN" latinLetters name).or
    ((letterNamed? "GREEK" greekLetters name).or
      ((letterNamed? "CYRILLIC" cyrillicLetters name).or
        ((otherNames.find? (·.1 == String.ofList name)).map (·.2))))

end Text

end PhpAudit
