/-
  Gleaner/Text/Charset/Names.lean
  ===============================
  **The names of encodings.**  Every encoding has a name and any number of further
  names; a semicolon ends each list.
-/

namespace Gleaner.Text

/-- The names of the encodings, the leading name of each first. -/
def charsetNames : List String :=
  ["ascii 646 ansi_x3.4_1968 ansi_x3.4_1986 ansi_x3_4_1968 cp367 csascii ibm367 iso646_us",
   "iso_646.irv_1991 iso_ir_6 us us_ascii ;",
   "big5 big5_tw csbig5 x_mac_trad_chinese ;",
   "cp1250 1250 windows_1250 ;",
   "cp1251 1251 windows_1251 ;",
   "cp1252 1252 windows_1252 ;",
   "cp1253 1253 windows_1253 ;",
   "cp1254 1254 windows_1254 ;",
   "cp1255 1255 windows_1255 ;",
   "cp1256 1256 windows_1256 ;",
   "cp1257 1257 windows_1257 ;",
   "cp1258 1258 windows_1258 ;",
   "cp437 437 cspc8codepage437 ibm437 ;",
   "cp737  ;",
   "cp775 775 cspc775baltic ibm775 ;",
   "cp850 850 cspc850multilingual ibm850 ;",
   "cp852 852 cspcp852 ibm852 ;",
   "cp855 855 csibm855 ibm855 ;",
   "cp857 857 csibm857 ibm857 ;",
   "cp858 858 csibm858 ibm858 ;",
   "cp860 860 csibm860 ibm860 ;",
   "cp861 861 cp_is csibm861 ibm861 ;",
   "cp862 862 cspc862latinhebrew ibm862 ;",
   "cp863 863 csibm863 ibm863 ;",
   "cp865 865 csibm865 ibm865 ;",
   "cp866 866 csibm866 ibm866 ;",
   "cp869 869 cp_gr csibm869 ibm869 ;",
   "cp874  ;",
   "euc_jp eucjp u_jis ujis ;",
   "euc_kr euckr korean ks_c_5601 ks_c_5601_1987 ks_x_1001 ksc5601 ksx1001 x_mac_korean ;",
   "gb18030 gb18030_2000 ;",
   "gb2312 chinese csiso58gb231280 euc_cn euccn eucgb2312_cn gb2312_1980 gb2312_80 iso_ir_58",
   "x_mac_simp_chinese ;",
   "gbk 936 cp936 ms936 ;",
   "hp_roman8 cp1051 csHPRoman8 ibm1051 r8 roman8 ;",
   "iso8859_10 csisolatin6 iso_8859_10 iso_8859_10_1992 iso_ir_157 l6 latin6 ;",
   "iso8859_11 iso_8859_11 iso_8859_11_2001 thai ;",
   "iso8859_13 iso_8859_13 l7 latin7 ;",
   "iso8859_14 iso_8859_14 iso_8859_14_1998 iso_celtic iso_ir_199 l8 latin8 ;",
   "iso8859_15 iso_8859_15 l9 latin9 ;",
   "iso8859_16 iso_8859_16 iso_8859_16_2001 iso_ir_226 l10 latin10 ;",
   "iso8859_2 csisolatin2 iso_8859_2 iso_8859_2_1987 iso_ir_101 l2 latin2 ;",
   "iso8859_3 csisolatin3 iso_8859_3 iso_8859_3_1988 iso_ir_109 l3 latin3 ;",
   "iso8859_4 csisolatin4 iso_8859_4 iso_8859_4_1988 iso_ir_110 l4 latin4 ;",
   "iso8859_5 csisolatincyrillic cyrillic iso_8859_5 iso_8859_5_1988 iso_ir_144 ;",
   "iso8859_6 arabic asmo_708 csisolatinarabic ecma_114 iso_8859_6 iso_8859_6_1987 iso_ir_127 ;",
   "iso8859_7 csisolatingreek ecma_118 elot_928 greek greek8 iso_8859_7 iso_8859_7_1987 iso_ir_126",
   ";",
   "iso8859_8 csisolatinhebrew hebrew iso_8859_8 iso_8859_8_1988 iso_ir_138 ;",
   "iso8859_9 csisolatin5 iso_8859_9 iso_8859_9_1989 iso_ir_148 l5 latin5 ;",
   "koi8_r cskoi8r ;",
   "koi8_u  ;",
   "kz1048 kz_1048 rk1048 strk1048_2002 ;",
   "latin_1 8859 cp819 csisolatin1 ibm819 iso8859 iso8859_1 iso_8859_1 iso_8859_1_1987 iso_ir_100",
   "l1 latin latin1 ;",
   "mac_cyrillic maccyrillic ;",
   "mac_greek macgreek ;",
   "mac_iceland maciceland ;",
   "mac_latin2 mac_centeuro maccentraleurope maclatin2 ;",
   "mac_roman macintosh macroman ;",
   "mac_turkish macturkish ;",
   "ptcp154 cp154 csptcp154 cyrillic_asian pt154 ;",
   "shift_jis csshiftjis s_jis shiftjis sjis x_mac_japanese ;",
   "tis_620 iso_ir_166 tis620 tis_620_0 tis_620_2529_0 tis_620_2529_1 ;",
   "utf_16_be unicodebigunmarked utf_16be ;",
   "utf_16_le u16 unicodelittleunmarked utf16 utf_16 utf_16le ;",
   "utf_32_be utf_32be ;",
   "utf_32_le u32 utf32 utf_32 utf_32le ;",
   "utf_8 cp65001 u8 utf utf8 utf8_ucs2 utf8_ucs4 utf_8_sig ;"]

end Gleaner.Text
