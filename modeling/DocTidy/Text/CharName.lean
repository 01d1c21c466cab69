import DocTidy.Text.CharName.Ancient
import DocTidy.Text.CharName.EastAsian
import DocTidy.Text.CharName.European
import DocTidy.Text.CharName.Forms
import DocTidy.Text.CharName.Latin
import DocTidy.Text.CharName.LettersWithMarks
import DocTidy.Text.CharName.MiddleEastern
import DocTidy.Text.CharName.Operators
import DocTidy.Text.CharName.Pictographs
import DocTidy.Text.CharName.Scores
import DocTidy.Text.CharName.Signs
import DocTidy.Text.CharName.SouthAsian
import DocTidy.Text.CharName.Symbols
import DocTidy.Text.CharName.Worldwide
import DocTidy.Text.Normal.Composition

/-!
# Character names

Every character has a name of capital letters, digits, spaces and hyphens.  Most names are listed;
those of ideographs hold the code point, and those of Hangul syllables are put together from the
names of their parts.
-/

namespace DocTidy.Text.CharName

/-- The short names of the variation selectors. -/
def selectors : List NameRun :=
  [⟨0xfe00, "VS", (List.range 16).map fun i => toString (i + 1)⟩,
   ⟨0xe0100, "VS", (List.range 240).map fun i => toString (i + 17)⟩]

/-- All runs of names. -/
def runs : List NameRun :=
  [latin, european, middleEastern, southAsian, worldwide, lettersWithMarks, symbols, operators,
   eastAsian, forms, ancient, signs, scores, pictographs, selectors].flatten

/-- Further names and abbreviations, with commas in between, by code point. -/
def aliases : List (Nat × String) :=
  [(0x0, "NUL,NULL"), (0x1, "SOH,START OF HEADING"), (0x2, "START OF TEXT,STX"),
   (0x3, "END OF TEXT,ETX"), (0x4, "END OF TRANSMISSION,EOT"), (0x5, "ENQ,ENQUIRY"),
   (0x6, "ACK,ACKNOWLEDGE"), (0x7, "ALERT,BEL"), (0x8, "BACKSPACE,BS"),
   (0x9, "CHARACTER TABULATION,HORIZONTAL TABULATION,HT,TAB"),
   (0xa, "END OF LINE,EOL,LF,LINE FEED,NEW LINE,NL"),
   (0xb, "LINE TABULATION,VERTICAL TABULATION,VT"), (0xc, "FF,FORM FEED"),
   (0xd, "CARRIAGE RETURN,CR"), (0xe, "LOCKING-SHIFT ONE,SHIFT OUT,SO"),
   (0xf, "LOCKING-SHIFT ZERO,SHIFT IN,SI"), (0x10, "DATA LINK ESCAPE,DLE"),
   (0x11, "DC1,DEVICE CONTROL ONE"), (0x12, "DC2,DEVICE CONTROL TWO"),
   (0x13, "DC3,DEVICE CONTROL THREE"), (0x14, "DC4,DEVICE CONTROL FOUR"),
   (0x15, "NAK,NEGATIVE ACKNOWLEDGE"), (0x16, "SYN,SYNCHRONOUS IDLE"),
   (0x17, "END OF TRANSMISSION BLOCK,ETB"), (0x18, "CAN,CANCEL"), (0x19, "END OF MEDIUM,EOM"),
   (0x1a, "SUB,SUBSTITUTE"), (0x1b, "ESC,ESCAPE"),
   (0x1c, "FILE SEPARATOR,FS,INFORMATION SEPARATOR FOUR"),
   (0x1d, "GROUP SEPARATOR,GS,INFORMATION SEPARATOR THREE"),
   (0x1e, "INFORMATION SEPARATOR TWO,RECORD SEPARATOR,RS"),
   (0x1f, "INFORMATION SEPARATOR ONE,UNIT SEPARATOR,US"), (0x20, "SP"), (0x7f, "DEL,DELETE"),
   (0x80, "PAD,PADDING CHARACTER"), (0x81, "HIGH OCTET PRESET,HOP"),
   (0x82, "BPH,BREAK PERMITTED HERE"), (0x83, "NBH,NO BREAK HERE"), (0x84, "IND,INDEX"),
   (0x85, "NEL,NEXT LINE"), (0x86, "SSA,START OF SELECTED AREA"),
   (0x87, "END OF SELECTED AREA,ESA"),
   (0x88, "CHARACTER TABULATION SET,HORIZONTAL TABULATION SET,HTS"),
   (0x89, "CHARACTER TABULATION WITH JUSTIFICATION,HORIZONTAL TABULATION WITH JUSTIFICATION,HTJ"),
   (0x8a, "LINE TABULATION SET,VERTICAL TABULATION SET,VTS"),
   (0x8b, "PARTIAL LINE DOWN,PARTIAL LINE FORWARD,PLD"),
   (0x8c, "PARTIAL LINE BACKWARD,PARTIAL LINE UP,PLU"),
   (0x8d, "REVERSE INDEX,REVERSE LINE FEED,RI"), (0x8e, "SINGLE SHIFT TWO,SINGLE-SHIFT-2,SS2"),
   (0x8f, "SINGLE SHIFT THREE,SINGLE-SHIFT-3,SS3"), (0x90, "DCS,DEVICE CONTROL STRING"),
   (0x91, "PRIVATE USE ONE,PRIVATE USE-1,PU1"), (0x92, "PRIVATE USE TWO,PRIVATE USE-2,PU2"),
   (0x93, "SET TRANSMIT STATE,STS"), (0x94, "CANCEL CHARACTER,CCH"), (0x95, "MESSAGE WAITING,MW"),
   (0x96, "SPA,START OF GUARDED AREA,START OF PROTECTED AREA"),
   (0x97, "END OF GUARDED AREA,END OF PROTECTED AREA,EPA"), (0x98, "SOS,START OF STRING"),
   (0x99, "SGC,SINGLE GRAPHIC CHARACTER INTRODUCER"), (0x9a, "SCI,SINGLE CHARACTER INTRODUCER"),
   (0x9b, "CONTROL SEQUENCE INTRODUCER,CSI"), (0x9c, "ST,STRING TERMINATOR"),
   (0x9d, "OPERATING SYSTEM COMMAND,OSC"), (0x9e, "PM,PRIVACY MESSAGE"),
   (0x9f, "APC,APPLICATION PROGRAM COMMAND"), (0xa0, "NBSP"), (0xad, "SHY"),
   (0x1a2, "LATIN CAPITAL LETTER GHA"), (0x1a3, "LATIN SMALL LETTER GHA"), (0x34f, "CGJ"),
   (0x61c, "ALM"), (0x709, "SYRIAC SUBLINEAR COLON SKEWED LEFT"), (0xcde, "KANNADA LETTER LLLA"),
   (0xe9d, "LAO LETTER FO FON"), (0xe9f, "LAO LETTER FO FAY"), (0xea3, "LAO LETTER RO"),
   (0xea5, "LAO LETTER LO"), (0xfd0, "TIBETAN MARK BKA- SHOG GI MGO RGYAN"),
   (0x11ec, "HANGUL JONGSEONG YESIEUNG-KIYEOK"),
   (0x11ed, "HANGUL JONGSEONG YESIEUNG-SSANGKIYEOK"), (0x11ee, "HANGUL JONGSEONG SSANGYESIEUNG"),
   (0x11ef, "HANGUL JONGSEONG YESIEUNG-KHIEUKH"), (0x180b, "FVS1"), (0x180c, "FVS2"),
   (0x180d, "FVS3"), (0x180e, "MVS"), (0x180f, "FVS4"), (0x200b, "ZWSP"), (0x200c, "ZWNJ"),
   (0x200d, "ZWJ"), (0x200e, "LRM"), (0x200f, "RLM"), (0x202a, "LRE"), (0x202b, "RLE"),
   (0x202c, "PDF"), (0x202d, "LRO"), (0x202e, "RLO"), (0x202f, "NNBSP"), (0x205f, "MMSP"),
   (0x2060, "WJ"), (0x2066, "LRI"), (0x2067, "RLI"), (0x2068, "FSI"), (0x2069, "PDI"),
   (0x2118, "WEIERSTRASS ELLIPTIC FUNCTION"), (0x2448, "MICR ON US SYMBOL"),
   (0x2449, "MICR DASH SYMBOL"),
   (0x2b7a, "LEFTWARDS TRIANGLE-HEADED ARROW WITH DOUBLE VERTICAL STROKE"),
   (0x2b7c, "RIGHTWARDS TRIANGLE-HEADED ARROW WITH DOUBLE VERTICAL STROKE"),
   (0xa015, "YI SYLLABLE ITERATION MARK"), (0xaa6e, "MYANMAR LETTER KHAMTI LLA"),
   (0xfe18, "PRESENTATION FORM FOR VERTICAL RIGHT WHITE LENTICULAR BRACKET"),
   (0xfeff, "BOM,BYTE ORDER MARK,ZWNBSP"), (0x122d4, "CUNEIFORM SIGN NU11 TENU"),
   (0x122d5, "CUNEIFORM SIGN NU11 OVER NU11 BUR OVER BUR"),
   (0x16e56, "MEDEFAIDRIN CAPITAL LETTER H"), (0x16e57, "MEDEFAIDRIN CAPITAL LETTER NG"),
   (0x16e76, "MEDEFAIDRIN SMALL LETTER H"), (0x16e77, "MEDEFAIDRIN SMALL LETTER NG"),
   (0x1b001, "HENTAIGANA LETTER E-1"),
   (0x1d0c5, "BYZANTINE MUSICAL SYMBOL FTHORA SKLIRON CHROMA VASIS")]

/-! ## Numbered names -/

/-- What a name begins with that holds the code point in hexadecimal digits, and for which. -/
def coded : List (String × List (Nat × Nat)) :=
  [("CJK COMPATIBILITY IDEOGRAPH-", [(0xf900, 0xfa6d), (0xfa70, 0xfad9), (0x2f800, 0x2fa1d)]),
   ("KHITAN SMALL SCRIPT CHARACTER-", [(0x18b00, 0x18cd5)]),
   ("NUSHU CHARACTER-", [(0x1b170, 0x1b2fb)])]

/-- The ideographs that have no other name than their code point. -/
def ideographs : List (Nat × Nat) :=
  [(0x3400, 0x4dbf), (0x4e00, 0x9fff), (0x20000, 0x2a6df), (0x2a700, 0x2b738),
   (0x2b740, 0x2b81d), (0x2b820, 0x2cea1), (0x2ceb0, 0x2ebe0), (0x30000, 0x3134a)]

/-- The value of a hexadecimal digit, with capital letters. -/
def hexDigit? (c : Char) : Option Nat :=
  if c.isDigit then some (c.toNat - '0'.toNat)
  else if 'A' ≤ c && c ≤ 'F' then some (c.toNat - 'A'.toNat + 10)
  else none

/-- The number that four or five hexadecimal digits stand for. -/
def codePoint? (digits : Text) : Option Nat :=
  if digits.length = 4 || digits.length = 5 then
    digits.foldlM (fun n c => (hexDigit? c).map (n * 16 + ·)) 0
  else none

/-- The character with that head and code point in its name, if it is in one of the ranges. -/
def numbered? (head : Text) (ranges : List (Nat × Nat)) (name : Text) : Option Char := do
  if !startsWith name head then none
  let n ← codePoint? (name.drop head.length)
  if ranges.any fun (first, last) => first ≤ n && n ≤ last then some (Char.ofNat n) else none

/-- A numbered name that is listed has no zero in front of its number. -/
def coded? (name : Text) : Option Char :=
  coded.findSome? fun (head, ranges) =>
    if startsWith name (head ++ "0") then none else numbered? head ranges name

/-! ## Hangul -/

def leadNames : List String :=
  ["G", "GG", "N", "D", "DD", "R", "M", "B", "BB", "S", "SS", "", "J", "JJ", "C", "K", "T", "P",
   "H"]

def vowelNames : List String :=
  ["A", "AE", "YA", "YAE", "EO", "E", "YEO", "YE", "O", "WA", "WAE", "OE", "YO", "U", "WEO", "WE",
   "WI", "YU", "EU", "YI", "I"]

def trailNames : List String :=
  ["", "G", "GG", "GS", "N", "NJ", "NH", "D", "L", "LG", "LM", "LB", "LS", "LT", "LP", "LH", "M",
   "B", "BS", "S", "SS", "NG", "J", "C", "K", "T", "P", "H"]

/-- The syllable that is put together from parts with these names. -/
def syllable? (name : Text) : Option Char :=
  (leadNames.zipIdx).findSome? fun (lead, l) =>
    (vowelNames.zipIdx).findSome? fun (vowel, v) =>
      let start := lead.toList ++ vowel.toList
      if startsWith name start then
        (trailNames.idxOf? (String.ofList (name.drop start.length))).map fun t =>
          Char.ofNat (Hangul.firstSyllable + (l * Hangul.vowels + v) * Hangul.trails + t)
      else none

/-! ## Looking up a name -/

/-- The character that is listed under a name. -/
def listed? (name : Text) : Option Char :=
  (runs.findSome? fun r => r.find? name).orElse fun _ =>
    (aliases.findSome? fun (n, names) =>
      if (names.toList.splitOn ',').contains name then some (Char.ofNat n) else none)

/-- The character of a name.  Listed names can be written in small letters, too. -/
def find? (name : Text) : Option Char :=
  let hangul : Text := "HANGUL SYLLABLE "
  if startsWith name hangul then syllable? (name.drop hangul.length)
  else
    (numbered? "CJK UNIFIED IDEOGRAPH-" ideographs name).orElse fun _ =>
      let name := name.map Char.toUpper
      (coded? name).orElse fun _ => listed? name

end DocTidy.Text.CharName
