import PageTemplates.Charset.Codec

/-!
# Names of charsets

Every charset has a name of its own, a root name, and other names that lead to
it. Names are compared in a plain form: lower-case letters, digits and dots,
with one underscore for whatever else stands between them.
-/

namespace PageTemplates.Codec

/-- A charset and the names it goes by; the root name and the other names are
in plain form. -/
structure Registered where
  codec : Codec
  name : String
  root : String
  aliases : List String
deriving Repr, DecidableEq

/-- A text charset that is known by its names. -/
def text (name root : String) (aliases : List String) : Registered :=
  ⟨.other name, name, root, aliases⟩

/-- A transformation of bytes or letters that is registered as a charset. -/
def change (name root : String) (aliases : List String) : Registered :=
  ⟨.transform name, name, root, aliases⟩

def registry : List Registered :=
  [⟨.ascii, "ascii", "ascii", ["646", "ansi_x3.4_1968", "ansi_x3.4_1986", "ansi_x3_4_1968",
     "cp367", "csascii", "ibm367", "iso646_us", "iso_646.irv_1991", "iso_ir_6", "us", "us_ascii"]⟩,
   ⟨.latin1, "iso8859-1", "latin_1", ["8859", "cp819", "csisolatin1", "ibm819", "iso8859",
     "iso8859_1", "iso_8859_1", "iso_8859_1_1987", "iso_ir_100", "l1", "latin", "latin1"]⟩,
   ⟨.latin5, "iso8859-9", "iso8859_9", ["csisolatin5", "iso_8859_9", "iso_8859_9_1989",
     "iso_ir_148", "l5", "latin5"]⟩,
   ⟨.latin9, "iso8859-15", "iso8859_15", ["iso_8859_15", "l9", "latin9"]⟩,
   ⟨.windows1252, "cp1252", "cp1252", ["1252", "windows_1252"]⟩,
   ⟨.windows1254, "cp1254", "cp1254", ["1254", "windows_1254"]⟩,
   ⟨.utf8, "utf-8", "utf_8", ["cp65001", "u8", "utf", "utf8", "utf8_ucs2", "utf8_ucs4"]⟩,
   ⟨.utf8Marked, "utf-8-sig", "utf_8_sig", []⟩,
   ⟨.utf16, "utf-16", "utf_16", ["u16", "utf16"]⟩,
   ⟨.utf16le, "utf-16-le", "utf_16_le", ["unicodelittleunmarked", "utf_16le"]⟩,
   ⟨.utf16be, "utf-16-be", "utf_16_be", ["unicodebigunmarked", "utf_16be"]⟩,
   ⟨.utf32, "utf-32", "utf_32", ["u32", "utf32"]⟩,
   ⟨.utf32le, "utf-32-le", "utf_32_le", ["utf_32le"]⟩,
   ⟨.utf32be, "utf-32-be", "utf_32_be", ["utf_32be"]⟩,
   ⟨.utf7, "utf-7", "utf_7", ["u7", "unicode_1_1_utf_7", "utf7"]⟩,
   text "big5" "big5" ["big5_tw", "csbig5", "x_mac_trad_chinese"],
   text "big5hkscs" "big5hkscs" ["big5_hkscs", "hkscs"],
   text "charmap" "charmap" [],
   text "cp037" "cp037" ["037", "csibm037", "ebcdic_cp_ca", "ebcdic_cp_nl", "ebcdic_cp_us",
     "ebcdic_cp_wt", "ibm037", "ibm039"],
   text "cp1006" "cp1006" [],
   text "cp1026" "cp1026" ["1026", "csibm1026", "ibm1026"],
   text "cp1125" "cp1125" ["1125", "cp866u", "ibm1125", "ruscii"],
   text "cp1140" "cp1140" ["1140", "ibm1140"],
   text "cp1250" "cp1250" ["1250", "windows_1250"],
   text "cp1251" "cp1251" ["1251", "windows_1251"],
   text "cp1253" "cp1253" ["1253", "windows_1253"],
   text "cp1255" "cp1255" ["1255", "windows_1255"],
   text "cp1256" "cp1256" ["1256", "windows_1256"],
   text "cp1257" "cp1257" ["1257", "windows_1257"],
   text "cp1258" "cp1258" ["1258", "windows_1258"],
   text "cp273" "cp273" ["273", "csibm273", "ibm273"],
   text "cp424" "cp424" ["424", "csibm424", "ebcdic_cp_he", "ibm424"],
   text "cp437" "cp437" ["437", "cspc8codepage437", "ibm437"],
   text "cp500" "cp500" ["500", "csibm500", "ebcdic_cp_be", "ebcdic_cp_ch", "ibm500"],
   text "cp720" "cp720" [],
   text "cp737" "cp737" [],
   text "cp775" "cp775" ["775", "cspc775baltic", "ibm775"],
   text "cp850" "cp850" ["850", "cspc850multilingual", "ibm850"],
   text "cp852" "cp852" ["852", "cspcp852", "ibm852"],
   text "cp855" "cp855" ["855", "csibm855", "ibm855"],
   text "cp856" "cp856" [],
   text "cp857" "cp857" ["857", "csibm857", "ibm857"],
   text "cp858" "cp858" ["858", "csibm858", "ibm858"],
   text "cp860" "cp860" ["860", "csibm860", "ibm860"],
   text "cp861" "cp861" ["861", "cp_is", "csibm861", "ibm861"],
   text "cp862" "cp862" ["862", "cspc862latinhebrew", "ibm862"],
   text "cp863" "cp863" ["863", "csibm863", "ibm863"],
   text "cp864" "cp864" ["864", "csibm864", "ibm864"],
   text "cp865" "cp865" ["865", "csibm865", "ibm865"],
   text "cp866" "cp866" ["866", "csibm866", "ibm866"],
   text "cp869" "cp869" ["869", "cp_gr", "csibm869", "ibm869"],
   text "cp874" "cp874" [],
   text "cp875" "cp875" [],
   text "cp932" "cp932" ["932", "ms932", "ms_kanji", "mskanji"],
   text "cp949" "cp949" ["949", "ms949", "uhc"],
   text "cp950" "cp950" ["950", "ms950"],
   text "euc_jis_2004" "euc_jis_2004" ["euc_jis2004", "eucjis2004", "jisx0213"],
   text "euc_jisx0213" "euc_jisx0213" ["eucjisx0213"],
   text "euc_jp" "euc_jp" ["eucjp", "u_jis", "ujis"],
   text "euc_kr" "euc_kr" ["euckr", "korean", "ks_c_5601", "ks_c_5601_1987", "ks_x_1001",
     "ksc5601", "ksx1001", "x_mac_korean"],
   text "gb18030" "gb18030" ["gb18030_2000"],
   text "gb2312" "gb2312" ["chinese", "csiso58gb231280", "euc_cn", "euccn", "eucgb2312_cn",
     "gb2312_1980", "gb2312_80", "iso_ir_58", "x_mac_simp_chinese"],
   text "gbk" "gbk" ["936", "cp936", "ms936"],
   text "hp-roman8" "hp_roman8" ["cp1051", "ibm1051", "r8", "roman8"],
   text "hz" "hz" ["hz_gb", "hz_gb_2312", "hzgb"],
   ⟨.unusable "idna", "idna", "idna", []⟩,
   text "iso2022_jp" "iso2022_jp" ["csiso2022jp", "iso2022jp", "iso_2022_jp"],
   text "iso2022_jp_1" "iso2022_jp_1" ["iso2022jp_1", "iso_2022_jp_1"],
   text "iso2022_jp_2" "iso2022_jp_2" ["iso2022jp_2", "iso_2022_jp_2"],
   text "iso2022_jp_2004" "iso2022_jp_2004" ["iso2022jp_2004", "iso_2022_jp_2004"],
   text "iso2022_jp_3" "iso2022_jp_3" ["iso2022jp_3", "iso_2022_jp_3"],
   text "iso2022_jp_ext" "iso2022_jp_ext" ["iso2022jp_ext", "iso_2022_jp_ext"],
   text "iso2022_kr" "iso2022_kr" ["csiso2022kr", "iso2022kr", "iso_2022_kr"],
   text "iso8859-10" "iso8859_10" ["csisolatin6", "iso_8859_10", "iso_8859_10_1992", "iso_ir_157",
     "l6", "latin6"],
   text "iso8859-11" "iso8859_11" ["iso_8859_11", "iso_8859_11_2001", "thai"],
   text "iso8859-13" "iso8859_13" ["iso_8859_13", "l7", "latin7"],
   text "iso8859-14" "iso8859_14" ["iso_8859_14", "iso_8859_14_1998", "iso_celtic", "iso_ir_199",
     "l8", "latin8"],
   text "iso8859-16" "iso8859_16" ["iso_8859_16", "iso_8859_16_2001", "iso_ir_226", "l10",
     "latin10"],
   text "iso8859-2" "iso8859_2" ["csisolatin2", "iso_8859_2", "iso_8859_2_1987", "iso_ir_101",
     "l2", "latin2"],
   text "iso8859-3" "iso8859_3" ["csisolatin3", "iso_8859_3", "iso_8859_3_1988", "iso_ir_109",
     "l3", "latin3"],
   text "iso8859-4" "iso8859_4" ["csisolatin4", "iso_8859_4", "iso_8859_4_1988", "iso_ir_110",
     "l4", "latin4"],
   text "iso8859-5" "iso8859_5" ["csisolatincyrillic", "cyrillic", "iso_8859_5",
     "iso_8859_5_1988", "iso_ir_144"],
   text "iso8859-6" "iso8859_6" ["arabic", "asmo_708", "csisolatinarabic", "ecma_114",
     "iso_8859_6", "iso_8859_6_1987", "iso_ir_127"],
   text "iso8859-7" "iso8859_7" ["csisolatingreek", "ecma_118", "elot_928", "greek", "greek8",
     "iso_8859_7", "iso_8859_7_1987", "iso_ir_126"],
   text "iso8859-8" "iso8859_8" ["csisolatinhebrew", "hebrew", "iso_8859_8", "iso_8859_8_1988",
     "iso_ir_138"],
   text "johab" "johab" ["cp1361", "ms1361"],
   text "koi8-r" "koi8_r" ["cskoi8r"],
   text "koi8-t" "koi8_t" [],
   text "koi8-u" "koi8_u" [],
   text "kz1048" "kz1048" ["kz_1048", "rk1048", "strk1048_2002"],
   text "mac-arabic" "mac_arabic" [],
   text "mac-croatian" "mac_croatian" [],
   text "mac-cyrillic" "mac_cyrillic" ["maccyrillic"],
   text "mac-farsi" "mac_farsi" [],
   text "mac-greek" "mac_greek" ["macgreek"],
   text "mac-iceland" "mac_iceland" ["maciceland"],
   text "mac-latin2" "mac_latin2" ["mac_centeuro", "maccentraleurope", "maclatin2"],
   text "mac-roman" "mac_roman" ["macintosh", "macroman"],
   text "mac-romanian" "mac_romanian" [],
   text "mac-turkish" "mac_turkish" ["macturkish"],
   text "palmos" "palmos" [],
   text "ptcp154" "ptcp154" ["cp154", "csptcp154", "cyrillic_asian", "pt154"],
   ⟨.punycode, "punycode", "punycode", []⟩,
   ⟨.rawEscaped, "raw-unicode-escape", "raw_unicode_escape", []⟩,
   text "shift_jis" "shift_jis" ["csshiftjis", "s_jis", "shiftjis", "sjis", "x_mac_japanese"],
   text "shift_jis_2004" "shift_jis_2004" ["s_jis_2004", "shiftjis2004", "sjis_2004"],
   text "shift_jisx0213" "shift_jisx0213" ["s_jisx0213", "shiftjisx0213", "sjisx0213"],
   text "tis-620" "tis_620" ["iso_ir_166", "tis620", "tis_620_0", "tis_620_2529_0",
     "tis_620_2529_1"],
   ⟨.unusable "undefined", "undefined", "undefined", []⟩,
   ⟨.escaped, "unicode-escape", "unicode_escape", []⟩,
   change "base64" "base64_codec" ["base64", "base_64"],
   change "bz2" "bz2_codec" ["bz2"],
   change "hex" "hex_codec" ["hex"],
   change "quopri" "quopri_codec" ["quopri", "quoted_printable", "quotedprintable"],
   change "rot-13" "rot_13" ["rot13"],
   change "uu" "uu_codec" ["uu"],
   change "zlib" "zlib_codec" ["zip", "zlib"]]

/-- The charset's own name. -/
def name (c : Codec) : String :=
  match registry.find? (·.codec == c) with
  | some r => r.name
  | none => ""

/-- Letters and digits in lower case and dots, with one `_` for each run of
other characters between them; `gap` says that such a run is open, `begun` that
something was kept before it. -/
def plainNameFrom (begun gap : Bool) : List Char → List Char
  | [] => []
  | c :: cs =>
      if c.isAlphanum || c == '.' then
        let kept := c.toLower :: plainNameFrom true false cs
        if begun && gap then '_' :: kept else kept
      else plainNameFrom begun true cs

/-- The form in which charset names are compared. -/
def plainName (s : String) : String := String.ofList (plainNameFrom false false s.toList)

/-- A plain name with underscores for its dots. -/
def withoutDots (s : String) : String :=
  String.ofList (s.toList.map fun c => if c == '.' then '_' else c)

/-- The charset a name leads to. A dot stands for itself or, in the other names
of a charset, for an underscore. -/
def ofName? (s : String) : Option Codec :=
  let plain := plainName s
  let find (isMeant : Registered → Bool) := (registry.find? isMeant).map (·.codec)
  (find (·.aliases.contains plain)).or
    ((find (·.aliases.contains (withoutDots plain))).or (find (·.root == plain)))

end PageTemplates.Codec
