import FeatureFlags.Unicode.CharSet

/-! Names of characters. A name is looked up among those of the first two blocks, of general punctuation
and of currencies, and among the names that follow from code points: ideographs and syllables. Other
names are taken for unknown.
-/

namespace FeatureFlags.Unicode

/-- Consecutive characters whose names begin alike. Their other words are listed in lines, a comma
stands between characters, and a slash between the names of one character. -/
structure NamedStretch where
  first : Nat
  beginning : String
  lines : List String

/-- The code point of the character of the stretch with a name. -/
def NamedStretch.code? (s : NamedStretch) (name : String) : Option Nat :=
  let endings := s.lines.flatMap (·.splitOn ",")
  (endings.findIdx? fun names => (names.splitOn "/").any (s.beginning ++ · == name)).map (s.first + ·)

def namedStretches : List NamedStretch := [
  ⟨0x0, "", [
      "NULL/NUL,START OF HEADING/SOH,START OF TEXT/STX,END OF TEXT/ETX,END OF TRANSMISSION/EOT",
      "ENQUIRY/ENQ,ACKNOWLEDGE/ACK,ALERT/BEL,BACKSPACE/BS",
      "CHARACTER TABULATION/HORIZONTAL TABULATION/HT/TAB,LINE FEED/NEW LINE/END OF LINE/LF/NL/EOL",
      "LINE TABULATION/VERTICAL TABULATION/VT,FORM FEED/FF,CARRIAGE RETURN/CR",
      "SHIFT OUT/LOCKING-SHIFT ONE/SO,SHIFT IN/LOCKING-SHIFT ZERO/SI,DATA LINK ESCAPE/DLE",
      "DEVICE CONTROL ONE/DC1,DEVICE CONTROL TWO/DC2,DEVICE CONTROL THREE/DC3",
      "DEVICE CONTROL FOUR/DC4,NEGATIVE ACKNOWLEDGE/NAK,SYNCHRONOUS IDLE/SYN",
      "END OF TRANSMISSION BLOCK/ETB,CANCEL/CAN,END OF MEDIUM/EOM,SUBSTITUTE/SUB,ESCAPE/ESC",
      "INFORMATION SEPARATOR FOUR/FILE SEPARATOR/FS,INFORMATION SEPARATOR THREE/GROUP SEPARATOR/GS",
      "INFORMATION SEPARATOR TWO/RECORD SEPARATOR/RS,INFORMATION SEPARATOR ONE/UNIT SEPARATOR/US"]⟩,
  ⟨0x20, "", [
      "SPACE/SP,EXCLAMATION MARK,QUOTATION MARK,NUMBER SIGN,DOLLAR SIGN,PERCENT SIGN,AMPERSAND",
      "APOSTROPHE,LEFT PARENTHESIS,RIGHT PARENTHESIS,ASTERISK,PLUS SIGN,COMMA,HYPHEN-MINUS",
      "FULL STOP,SOLIDUS"]⟩,
  ⟨0x30, "DIGIT ", ["ZERO,ONE,TWO,THREE,FOUR,FIVE,SIX,SEVEN,EIGHT,NINE"]⟩,
  ⟨0x3A, "", [
      "COLON,SEMICOLON,LESS-THAN SIGN,EQUALS SIGN,GREATER-THAN SIGN,QUESTION MARK,COMMERCIAL AT"]⟩,
  ⟨0x41, "LATIN CAPITAL LETTER ", ["A,B,C,D,E,F,G,H,I,J,K,L,M,N,O,P,Q,R,S,T,U,V,W,X,Y,Z"]⟩,
  ⟨0x5B, "", [
      "LEFT SQUARE BRACKET,REVERSE SOLIDUS,RIGHT SQUARE BRACKET,CIRCUMFLEX ACCENT,LOW LINE",
      "GRAVE ACCENT"]⟩,
  ⟨0x61, "LATIN SMALL LETTER ", ["A,B,C,D,E,F,G,H,I,J,K,L,M,N,O,P,Q,R,S,T,U,V,W,X,Y,Z"]⟩,
  ⟨0x7B, "", ["LEFT CURLY BRACKET,VERTICAL LINE,RIGHT CURLY BRACKET,TILDE"]⟩,
  ⟨0x7F, "", [
      "DELETE/DEL,PADDING CHARACTER/PAD,HIGH OCTET PRESET/HOP,BREAK PERMITTED HERE/BPH",
      "NO BREAK HERE/NBH,INDEX/IND,NEXT LINE/NEL,START OF SELECTED AREA/SSA",
      "END OF SELECTED AREA/ESA,CHARACTER TABULATION SET/HORIZONTAL TABULATION SET/HTS",
      "CHARACTER TABULATION WITH JUSTIFICATION/HORIZONTAL TABULATION WITH JUSTIFICATION/HTJ",
      "LINE TABULATION SET/VERTICAL TABULATION SET/VTS,PARTIAL LINE FORWARD/PARTIAL LINE DOWN/PLD",
      "PARTIAL LINE BACKWARD/PARTIAL LINE UP/PLU,REVERSE LINE FEED/REVERSE INDEX/RI",
      "SINGLE SHIFT TWO/SINGLE-SHIFT-2/SS2,SINGLE SHIFT THREE/SINGLE-SHIFT-3/SS3",
      "DEVICE CONTROL STRING/DCS,PRIVATE USE ONE/PRIVATE USE-1/PU1",
      "PRIVATE USE TWO/PRIVATE USE-2/PU2,SET TRANSMIT STATE/STS,CANCEL CHARACTER/CCH",
      "MESSAGE WAITING/MW,START OF GUARDED AREA/START OF PROTECTED AREA/SPA",
      "END OF GUARDED AREA/END OF PROTECTED AREA/EPA,START OF STRING/SOS",
      "SINGLE GRAPHIC CHARACTER INTRODUCER/SGC,SINGLE CHARACTER INTRODUCER/SCI",
      "CONTROL SEQUENCE INTRODUCER/CSI,STRING TERMINATOR/ST,OPERATING SYSTEM COMMAND/OSC",
      "PRIVACY MESSAGE/PM,APPLICATION PROGRAM COMMAND/APC"]⟩,
  ⟨0xA0, "", [
      "NO-BREAK SPACE/NBSP,INVERTED EXCLAMATION MARK,CENT SIGN,POUND SIGN,CURRENCY SIGN,YEN SIGN",
      "BROKEN BAR,SECTION SIGN,DIAERESIS,COPYRIGHT SIGN,FEMININE ORDINAL INDICATOR",
      "LEFT-POINTING DOUBLE ANGLE QUOTATION MARK,NOT SIGN,SOFT HYPHEN/SHY,REGISTERED SIGN,MACRON",
      "DEGREE SIGN,PLUS-MINUS SIGN,SUPERSCRIPT TWO,SUPERSCRIPT THREE,ACUTE ACCENT,MICRO SIGN",
      "PILCROW SIGN,MIDDLE DOT,CEDILLA,SUPERSCRIPT ONE,MASCULINE ORDINAL INDICATOR",
      "RIGHT-POINTING DOUBLE ANGLE QUOTATION MARK,VULGAR FRACTION ONE QUARTER",
      "VULGAR FRACTION ONE HALF,VULGAR FRACTION THREE QUARTERS,INVERTED QUESTION MARK"]⟩,
  ⟨0xC0, "LATIN CAPITAL LETTER ", [
      "A WITH GRAVE,A WITH ACUTE,A WITH CIRCUMFLEX,A WITH TILDE,A WITH DIAERESIS,A WITH RING ABOVE",
      "AE,C WITH CEDILLA,E WITH GRAVE,E WITH ACUTE,E WITH CIRCUMFLEX,E WITH DIAERESIS,I WITH GRAVE",
      "I WITH ACUTE,I WITH CIRCUMFLEX,I WITH DIAERESIS,ETH,N WITH TILDE,O WITH GRAVE,O WITH ACUTE",
      "O WITH CIRCUMFLEX,O WITH TILDE,O WITH DIAERESIS"]⟩,
  ⟨0xD7, "MULTIPLICATION ", ["SIGN"]⟩,
  ⟨0xD8, "LATIN CAPITAL LETTER ", [
      "O WITH STROKE,U WITH GRAVE,U WITH ACUTE,U WITH CIRCUMFLEX,U WITH DIAERESIS,Y WITH ACUTE",
      "THORN"]⟩,
  ⟨0xDF, "LATIN SMALL LETTER ", [
      "SHARP S,A WITH GRAVE,A WITH ACUTE,A WITH CIRCUMFLEX,A WITH TILDE,A WITH DIAERESIS",
      "A WITH RING ABOVE,AE,C WITH CEDILLA,E WITH GRAVE,E WITH ACUTE,E WITH CIRCUMFLEX",
      "E WITH DIAERESIS,I WITH GRAVE,I WITH ACUTE,I WITH CIRCUMFLEX,I WITH DIAERESIS,ETH",
      "N WITH TILDE,O WITH GRAVE,O WITH ACUTE,O WITH CIRCUMFLEX,O WITH TILDE,O WITH DIAERESIS"]⟩,
  ⟨0xF7, "DIVISION ", ["SIGN"]⟩,
  ⟨0xF8, "LATIN SMALL LETTER ", [
      "O WITH STROKE,U WITH GRAVE,U WITH ACUTE,U WITH CIRCUMFLEX,U WITH DIAERESIS,Y WITH ACUTE",
      "THORN,Y WITH DIAERESIS"]⟩,
  ⟨0x2000, "", [
      "EN QUAD,EM QUAD,EN SPACE,EM SPACE,THREE-PER-EM SPACE,FOUR-PER-EM SPACE,SIX-PER-EM SPACE",
      "FIGURE SPACE,PUNCTUATION SPACE,THIN SPACE,HAIR SPACE,ZERO WIDTH SPACE/ZWSP",
      "ZERO WIDTH NON-JOINER/ZWNJ,ZERO WIDTH JOINER/ZWJ,LEFT-TO-RIGHT MARK/LRM",
      "RIGHT-TO-LEFT MARK/RLM,HYPHEN,NON-BREAKING HYPHEN,FIGURE DASH,EN DASH,EM DASH",
      "HORIZONTAL BAR,DOUBLE VERTICAL LINE,DOUBLE LOW LINE,LEFT SINGLE QUOTATION MARK",
      "RIGHT SINGLE QUOTATION MARK,SINGLE LOW-9 QUOTATION MARK",
      "SINGLE HIGH-REVERSED-9 QUOTATION MARK,LEFT DOUBLE QUOTATION MARK",
      "RIGHT DOUBLE QUOTATION MARK,DOUBLE LOW-9 QUOTATION MARK",
      "DOUBLE HIGH-REVERSED-9 QUOTATION MARK,DAGGER,DOUBLE DAGGER,BULLET,TRIANGULAR BULLET",
      "ONE DOT LEADER,TWO DOT LEADER,HORIZONTAL ELLIPSIS,HYPHENATION POINT,LINE SEPARATOR",
      "PARAGRAPH SEPARATOR,LEFT-TO-RIGHT EMBEDDING/LRE,RIGHT-TO-LEFT EMBEDDING/RLE",
      "POP DIRECTIONAL FORMATTING/PDF,LEFT-TO-RIGHT OVERRIDE/LRO,RIGHT-TO-LEFT OVERRIDE/RLO",
      "NARROW NO-BREAK SPACE/NNBSP,PER MILLE SIGN,PER TEN THOUSAND SIGN,PRIME,DOUBLE PRIME",
      "TRIPLE PRIME,REVERSED PRIME,REVERSED DOUBLE PRIME,REVERSED TRIPLE PRIME,CARET",
      "SINGLE LEFT-POINTING ANGLE QUOTATION MARK,SINGLE RIGHT-POINTING ANGLE QUOTATION MARK",
      "REFERENCE MARK,DOUBLE EXCLAMATION MARK,INTERROBANG,OVERLINE,UNDERTIE,CHARACTER TIE",
      "CARET INSERTION POINT,ASTERISM,HYPHEN BULLET,FRACTION SLASH,LEFT SQUARE BRACKET WITH QUILL",
      "RIGHT SQUARE BRACKET WITH QUILL,DOUBLE QUESTION MARK,QUESTION EXCLAMATION MARK",
      "EXCLAMATION QUESTION MARK,TIRONIAN SIGN ET,REVERSED PILCROW SIGN,BLACK LEFTWARDS BULLET",
      "BLACK RIGHTWARDS BULLET,LOW ASTERISK,REVERSED SEMICOLON,CLOSE UP",
      "TWO ASTERISKS ALIGNED VERTICALLY,COMMERCIAL MINUS SIGN,SWUNG DASH,INVERTED UNDERTIE",
      "FLOWER PUNCTUATION MARK,THREE DOT PUNCTUATION,QUADRUPLE PRIME,FOUR DOT PUNCTUATION",
      "FIVE DOT PUNCTUATION,TWO DOT PUNCTUATION,FOUR DOT MARK,DOTTED CROSS,TRICOLON",
      "VERTICAL FOUR DOTS,MEDIUM MATHEMATICAL SPACE/MMSP,WORD JOINER/WJ,FUNCTION APPLICATION"]⟩,
  ⟨0x2062, "INVISIBLE ", ["TIMES,SEPARATOR,PLUS"]⟩,
  ⟨0x2066, "", [
      "LEFT-TO-RIGHT ISOLATE/LRI,RIGHT-TO-LEFT ISOLATE/RLI,FIRST STRONG ISOLATE/FSI",
      "POP DIRECTIONAL ISOLATE/PDI,INHIBIT SYMMETRIC SWAPPING,ACTIVATE SYMMETRIC SWAPPING",
      "INHIBIT ARABIC FORM SHAPING,ACTIVATE ARABIC FORM SHAPING,NATIONAL DIGIT SHAPES",
      "NOMINAL DIGIT SHAPES"]⟩,
  ⟨0x20A0, "", [
      "EURO-CURRENCY SIGN,COLON SIGN,CRUZEIRO SIGN,FRENCH FRANC SIGN,LIRA SIGN,MILL SIGN",
      "NAIRA SIGN,PESETA SIGN,RUPEE SIGN,WON SIGN,NEW SHEQEL SIGN,DONG SIGN,EURO SIGN,KIP SIGN",
      "TUGRIK SIGN,DRACHMA SIGN,GERMAN PENNY SIGN,PESO SIGN,GUARANI SIGN,AUSTRAL SIGN,HRYVNIA SIGN",
      "CEDI SIGN,LIVRE TOURNOIS SIGN,SPESMILO SIGN,TENGE SIGN,INDIAN RUPEE SIGN,TURKISH LIRA SIGN",
      "NORDIC MARK SIGN,MANAT SIGN,RUBLE SIGN,LARI SIGN,BITCOIN SIGN,SOM SIGN"]⟩]

/-- Ideographs whose names are made of their code points. -/
def unifiedIdeograph : CharSet where
  bounds := #[
    13312, 19904, 19968, 40960, 131072, 173792, 173824, 177977, 177984, 178206, 178208, 183970,
    183984, 191457, 196608, 201547]

/-- The code point in the name of an ideograph, in four or five digits to base sixteen. -/
def ideograph? (name : String) : Option Nat := do
  let digits := (← name.dropPrefix? "CJK UNIFIED IDEOGRAPH-").toString.toList
  let values ← digits.mapM ("0123456789ABCDEF".toList.idxOf? ·)
  let code := values.foldl (fun n value => 16 * n + value) 0
  if (values.length == 4 || values.length == 5) && unifiedIdeograph.containsCode code then some code
  else none

/-- The names of syllables in the order of their code points: an initial, a vowel and a final. -/
def syllables : List String :=
  ["G", "GG", "N", "D", "DD", "R", "M", "B", "BB", "S", "SS", "", "J", "JJ", "C", "K", "T", "P",
    "H"].flatMap fun initial =>
  ["A", "AE", "YA", "YAE", "EO", "E", "YEO", "YE", "O", "WA", "WAE", "OE", "YO", "U", "WEO", "WE",
    "WI", "YU", "EU", "YI", "I"].flatMap fun vowel =>
  ["", "G", "GG", "GS", "N", "NJ", "NH", "D", "L", "LG", "LM", "LB", "LS", "LT", "LP", "LH", "M",
    "B", "BS", "S", "SS", "NG", "J", "C", "K", "T", "P", "H"].map fun final =>
  initial ++ vowel ++ final

def syllable? (name : String) : Option Nat := do
  let syllable ← name.dropPrefix? "HANGUL SYLLABLE "
  return 0xAC00 + (← syllables.idxOf? syllable.toString)

/-- The code point of the character with a name. Listed names are found in any case. -/
def namedCode? (name : String) : Option Nat :=
  ideograph? name <|> syllable? name
    <|> namedStretches.findSome? (·.code? (String.ofList (name.toList.map Char.toUpper)))

end FeatureFlags.Unicode
