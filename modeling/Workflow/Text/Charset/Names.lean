import Workflow.Text.Charset.Tables

/-!
# Names of character sets

A character set has several names.  Capitals do not matter in a name, and neither do the marks
between its letters and digits.
-/

namespace Workflow.Text.Charset

/-- The names of the character sets, in small letters and with an underscore for any marks. -/
def names : List (Charset × List String) :=
  [(.utf8, ["utf_8", "u8", "utf", "utf8", "utf8_ucs2", "utf8_ucs4", "cp65001"]),
   (.utf8Marked, ["utf_8_sig"]),
   (.utf16Marked, ["utf_16", "u16", "utf16"]),
   (.utf16 false, ["utf_16_le", "unicodelittleunmarked", "utf_16le"]),
   (.utf16 true, ["utf_16_be", "unicodebigunmarked", "utf_16be"]),
   (.utf32Marked, ["utf_32", "u32", "utf32"]),
   (.utf32 false, ["utf_32_le", "utf_32le"]),
   (.utf32 true, ["utf_32_be", "utf_32be"]),
   (ascii, ["ascii", "646", "ansi_x3.4_1968", "ansi_x3_4_1968", "ansi_x3.4_1986", "cp367",
     "csascii", "ibm367", "iso646_us", "iso_646.irv_1991", "iso_ir_6", "us", "us_ascii"]),
   (latin1, ["latin_1", "8859", "cp819", "csisolatin1", "ibm819", "iso8859", "iso8859_1",
     "iso_8859_1", "iso_8859_1_1987", "iso_ir_100", "l1", "latin", "latin1"]),
   (latin2, ["iso8859_2", "csisolatin2", "iso_8859_2", "iso_8859_2_1987", "iso_ir_101", "l2",
     "latin2"]),
   (latin3, ["iso8859_3", "csisolatin3", "iso_8859_3", "iso_8859_3_1988", "iso_ir_109", "l3",
     "latin3"]),
   (latin4, ["iso8859_4", "csisolatin4", "iso_8859_4", "iso_8859_4_1988", "iso_ir_110", "l4",
     "latin4"]),
   (cyrillic, ["iso8859_5", "csisolatincyrillic", "cyrillic", "iso_8859_5", "iso_8859_5_1988",
     "iso_ir_144"]),
   (arabic, ["iso8859_6", "arabic", "asmo_708", "csisolatinarabic", "ecma_114", "iso_8859_6",
     "iso_8859_6_1987", "iso_ir_127"]),
   (greek, ["iso8859_7", "csisolatingreek", "ecma_118", "elot_928", "greek", "greek8", "iso_8859_7",
     "iso_8859_7_1987", "iso_ir_126"]),
   (hebrew, ["iso8859_8", "csisolatinhebrew", "hebrew", "iso_8859_8", "iso_8859_8_1988",
     "iso_ir_138"]),
   (latin5, ["iso8859_9", "csisolatin5", "iso_8859_9", "iso_8859_9_1989", "iso_ir_148", "l5",
     "latin5"]),
   (latin6, ["iso8859_10", "csisolatin6", "iso_8859_10", "iso_8859_10_1992", "iso_ir_157", "l6",
     "latin6"]),
   (thai, ["iso8859_11", "thai", "iso_8859_11", "iso_8859_11_2001"]),
   (latin7, ["iso8859_13", "iso_8859_13", "l7", "latin7"]),
   (latin8, ["iso8859_14", "iso_8859_14", "iso_8859_14_1998", "iso_celtic", "iso_ir_199", "l8",
     "latin8"]),
   (latin9, ["iso8859_15", "iso_8859_15", "l9", "latin9"]),
   (latin10, ["iso8859_16", "iso_8859_16", "iso_8859_16_2001", "iso_ir_226", "l10", "latin10"]),
   (windows1250, ["cp1250", "1250", "windows_1250"]),
   (windows1251, ["cp1251", "1251", "windows_1251"]),
   (windows1252, ["cp1252", "1252", "windows_1252"]),
   (windows1253, ["cp1253", "1253", "windows_1253"]),
   (windows1254, ["cp1254", "1254", "windows_1254"]),
   (windows1255, ["cp1255", "1255", "windows_1255"]),
   (windows1256, ["cp1256", "1256", "windows_1256"]),
   (windows1257, ["cp1257", "1257", "windows_1257"]),
   (windows1258, ["cp1258", "1258", "windows_1258"]),
   (page437, ["cp437", "437", "cspc8codepage437", "ibm437"]),
   (page850, ["cp850", "850", "cspc850multilingual", "ibm850"]),
   (page852, ["cp852", "852", "cspcp852", "ibm852"]),
   (page866, ["cp866", "866", "csibm866", "ibm866"]),
   (koi8r, ["koi8_r", "cskoi8r"]),
   (koi8u, ["koi8_u"]),
   (macintosh, ["mac_roman", "macintosh", "macroman"])]

/-- Whether a character counts in a name. -/
def isNamePart (c : Char) : Bool := c.isAlphanum || c = '.'

/-- A name in small letters, with one underscore for the marks between two of its parts and none for
those at its ends; `marks` says whether marks have just been passed. -/
def plainNameFrom (marks : Bool) : List Char → List Char
  | [] => []
  | c :: rest =>
    if !isNamePart c then plainNameFrom true rest
    else if marks then '_' :: c.toLower :: plainNameFrom false rest
    else c.toLower :: plainNameFrom false rest

/-- A name without what does not matter in it. -/
def plainName (name : List Char) : String :=
  String.ofList (plainNameFrom false (name.dropWhile (!isNamePart ·)))

/-- The character set of a name. -/
def named? (name : List Char) : Option Charset :=
  (names.find? (·.2.contains (plainName name))).map (·.1)

end Workflow.Text.Charset
