import ClientGen.Text.CodePoint

/-!
# Character sets of one octet a character

In each of these sets every octet stands for a character of its own.  A set is written as what
differs from the plainest one, in which an octet stands for the character with its number.
-/

namespace ClientGen.Text

/-- A character set of one octet a character: its name, the other names it goes by, and runs of
characters with the octet that stands for the first one. -/
structure CodePage where
  name : String
  aliases : List String
  runs : List (Nat × String)
  deriving Repr, DecidableEq

namespace CodePage

/-- The characters of octets with those of a run put into their places, from octet `i` on. -/
def put (chars : Array Char) : Nat → List Char → Array Char
  | _, [] => chars
  | i, c :: rest => put (chars.setIfInBounds i c) (i + 1) rest

/-- The characters of the octets from 0 to 255; U+FFFD is that of an octet that stands for none. -/
def table (page : CodePage) : Array Char :=
  page.runs.foldl (fun chars run => put chars run.1 run.2.toList)
    ((Array.range 256).map Char.ofNat)

/-- The characters that octets stand for. -/
def decode (page : CodePage) (octets : List UInt8) : List Char :=
  let chars := page.table
  octets.map fun octet => chars.getD octet.toNat replacement

/-! ### Character sets of ISO 8859

The parts of the standard, each for the letters of some languages.
-/

/-- The part for Greek. -/
def greek : CodePage where
  name := "iso8859_7"
  aliases := ["csisolatingreek", "ecma_118", "elot_928", "greek", "greek8", "iso_8859_7",
    "iso_8859_7_1987", "iso_ir_126"]
  runs := [(0xa1, "‘’£€₯"), (0xaa, "ͺ«¬\xad\ufffd―"),
    (0xb4, "΄΅Ά·ΈΉΊ»Ό½ΎΏΐΑΒΓΔΕΖΗΘΙΚΛΜΝΞΟΠΡ\ufffdΣΤΥΦΧΨΩΪΫάέήίΰαβγδεζηθικλμνξοπρςστυφχψωϊϋό"),
    (0xfd, "ύώ\ufffd")]

/-- The sets of ISO 8859 but the first. -/
def iso : List CodePage := [
  { name := "iso8859_2"
    aliases := ["csisolatin2", "iso_8859_2", "iso_8859_2_1987", "iso_ir_101", "l2", "latin2"]
    runs := [
      (0xa1, "Ą˘Ł¤ĽŚ§¨ŠŞŤŹ\xadŽŻ°ą˛ł´ľśˇ¸šşťź˝žżŔÁÂĂÄĹĆÇČÉĘËĚÍÎĎĐŃŇÓÔŐÖ×ŘŮÚŰÜÝŢßŕáâăäĺćçčéęë"),
      (0xec, "ěíîďđńňóôőö÷řůúűüýţ˙")] },
  { name := "iso8859_3"
    aliases := ["csisolatin3", "iso_8859_3", "iso_8859_3_1988", "iso_ir_109", "l3", "latin3"]
    runs := [(0xa1, "Ħ˘£¤\ufffdĤ§¨İŞĞĴ\xad\ufffdŻ°ħ"), (0xb6, "ĥ·¸ışğĵ½\ufffdżÀÁÂ\ufffdÄĊĈ"),
      (0xd0, "\ufffd"), (0xd5, "ĠÖ×Ĝ"), (0xdd, "ŬŜ"), (0xe3, "\ufffdäċĉ"), (0xf0, "\ufffd"),
      (0xf5, "ġö÷ĝ"), (0xfd, "ŭŝ˙")] },
  { name := "iso8859_4"
    aliases := ["csisolatin4", "iso_8859_4", "iso_8859_4_1988", "iso_ir_110", "l4", "latin4"]
    runs := [(0xa1, "ĄĸŖ¤ĨĻ§¨ŠĒĢŦ\xadŽ¯°ą˛ŗ´ĩļˇ¸šēģŧŊžŋĀ"), (0xc7, "ĮČÉĘËĖÍÎĪĐŅŌĶ"),
      (0xd9, "ŲÚÛÜŨŪßā"), (0xe7, "įčéęëėíîīđņōķ"), (0xf9, "ųúûüũū˙")] },
  { name := "iso8859_5"
    aliases := ["csisolatincyrillic", "cyrillic", "iso_8859_5", "iso_8859_5_1988", "iso_ir_144"]
    runs := [
      (0xa1, "ЁЂЃЄЅІЇЈЉЊЋЌ\xadЎЏАБВГДЕЖЗИЙКЛМНОПРСТУФХЦЧШЩЪЫЬЭЮЯабвгдежзийклмнопрстуфхцчшщъы"),
      (0xec, "ьэюя№ёђѓєѕіїјљњћќ§ўџ")] },
  { name := "iso8859_6"
    aliases := ["arabic", "asmo_708", "csisolatinarabic", "ecma_114", "iso_8859_6",
      "iso_8859_6_1987", "iso_ir_127"]
    runs := [
      (0xa1, "\ufffd\ufffd\ufffd¤\ufffd\ufffd\ufffd\ufffd\ufffd\ufffd\ufffd،\xad\ufffd\ufffd"),
      (0xb0, "\ufffd\ufffd\ufffd\ufffd\ufffd\ufffd\ufffd\ufffd\ufffd\ufffd\ufffd\u061b\ufffd"),
      (0xbd, "\ufffd\ufffd\u061f\ufffd\u0621\u0622\u0623\u0624\u0625\u0626\u0627\u0628\u0629"),
      (0xca, "\u062a\u062b\u062c\u062d\u062e\u062f\u0630\u0631\u0632\u0633\u0634\u0635\u0636"),
      (0xd7, "\u0637\u0638\u0639\u063a\ufffd\ufffd\ufffd\ufffd\ufffd\u0640\u0641\u0642\u0643"),
      (0xe4, "\u0644\u0645\u0646\u0647\u0648\u0649\u064a\u064b\u064c\u064d\u064e\u064f\u0650"),
      (0xf1, "\u0651\u0652\ufffd\ufffd\ufffd\ufffd\ufffd\ufffd\ufffd\ufffd\ufffd\ufffd\ufffd"),
      (0xfe, "\ufffd\ufffd")] },
  greek,
  { name := "iso8859_8"
    aliases := ["csisolatinhebrew", "hebrew", "iso_8859_8", "iso_8859_8_1988", "iso_ir_138"]
    runs := [(0xa1, "\ufffd"), (0xaa, "×"), (0xba, "÷"),
      (0xbf, "\ufffd\ufffd\ufffd\ufffd\ufffd\ufffd\ufffd\ufffd\ufffd\ufffd\ufffd\ufffd\ufffd"),
      (0xcc, "\ufffd\ufffd\ufffd\ufffd\ufffd\ufffd\ufffd\ufffd\ufffd\ufffd\ufffd\ufffd\ufffd"),
      (0xd9, "\ufffd\ufffd\ufffd\ufffd\ufffd\ufffd‗\u05d0\u05d1\u05d2\u05d3\u05d4\u05d5"),
      (0xe6, "\u05d6\u05d7\u05d8\u05d9\u05da\u05db\u05dc\u05dd\u05de\u05df\u05e0\u05e1\u05e2"),
      (0xf3, "\u05e3\u05e4\u05e5\u05e6\u05e7\u05e8\u05e9\u05ea\ufffd\ufffd\u200e\u200f\ufffd")] },
  { name := "iso8859_9"
    aliases := ["csisolatin5", "iso_8859_9", "iso_8859_9_1989", "iso_ir_148", "l5", "latin5"]
    runs := [(0xd0, "Ğ"), (0xdd, "İŞ"), (0xf0, "ğ"), (0xfd, "ış")] },
  { name := "iso8859_10"
    aliases := ["csisolatin6", "iso_8859_10", "iso_8859_10_1992", "iso_ir_157", "l6", "latin6"]
    runs := [(0xa1, "ĄĒĢĪĨĶ§ĻĐŠŦŽ\xadŪŊ°ąēģīĩķ·ļđšŧž―ūŋĀ"), (0xc7, "ĮČÉĘËĖ"), (0xd1, "ŅŌ"),
      (0xd7, "ŨØŲ"), (0xe0, "ā"), (0xe7, "įčéęëė"), (0xf1, "ņō"), (0xf7, "ũøų"), (0xff, "ĸ")] },
  { name := "iso8859_11"
    aliases := ["iso_8859_11", "iso_8859_11_2001", "thai"]
    runs := [(0xa1, "กขฃคฅฆงจฉชซฌญฎฏฐฑฒณดตถทธนบปผฝพฟภมยรฤลฦวศษสหฬอฮฯะ\u0e31าำ\u0e34\u0e35\u0e36"),
      (0xd7, "\u0e37\u0e38\u0e39\u0e3a\ufffd\ufffd\ufffd\ufffd฿เแโใไๅๆ\u0e47\u0e48\u0e49"),
      (0xea, "\u0e4a\u0e4b\u0e4c\u0e4d\u0e4e๏๐๑๒๓๔๕๖๗๘๙๚๛\ufffd\ufffd\ufffd\ufffd")] },
  { name := "iso8859_13"
    aliases := ["iso_8859_13", "l7", "latin7"]
    runs := [(0xa1, "”¢£¤„¦§Ø©Ŗ"), (0xaf, "Æ"), (0xb4, "“µ¶·ø¹ŗ"),
      (0xbf, "æĄĮĀĆÄÅĘĒČÉŹĖĢĶĪĻŠŃŅÓŌÕÖ×ŲŁŚŪÜŻŽßąįāćäåęēčéźėģķīļšńņóōõö÷ųłśūüżž’")] },
  { name := "iso8859_14"
    aliases := ["iso_8859_14", "iso_8859_14_1998", "iso_celtic", "iso_ir_199", "l8", "latin8"]
    runs := [(0xa1, "Ḃḃ£ĊċḊ§Ẁ©ẂḋỲ\xad®ŸḞḟĠġṀṁ¶ṖẁṗẃṠỳẄẅṡ"), (0xd0, "Ŵ"), (0xd7, "Ṫ"), (0xde, "Ŷ"),
      (0xf0, "ŵ"), (0xf7, "ṫ"), (0xfe, "ŷ")] },
  { name := "iso8859_15"
    aliases := ["iso_8859_15", "l9", "latin9"]
    runs := [(0xa4, "€¥Š§š"), (0xb4, "Žµ¶·ž¹º»ŒœŸ")] },
  { name := "iso8859_16"
    aliases := ["iso_8859_16", "iso_8859_16_2001", "iso_ir_226", "l10", "latin10"]
    runs := [(0xa1, "ĄąŁ€„Š§š©Ș«Ź\xadźŻ°±ČłŽ”¶·žčș»ŒœŸżÀÁÂĂÄĆ"), (0xd0, "ĐŃÒÓÔŐÖŚŰ"),
      (0xdd, "ĘȚ"), (0xe3, "ăäć"), (0xf0, "đńòóôőöśű"), (0xfd, "ęț")] }]

/-! ### Character sets of Windows

The sets that Windows uses where a character is one octet.
-/

/-- The sets of Windows. -/
def windows : List CodePage := [
  { name := "cp1250"
    aliases := ["1250", "windows_1250"]
    runs := [(0x80, "€\ufffd‚\ufffd„…†‡\ufffd‰Š‹ŚŤŽŹ\ufffd‘’“”•–—\ufffd™š›śťžź\xa0ˇ˘Ł¤Ą"),
      (0xaa, "Ş"), (0xaf, "Ż°±˛ł"),
      (0xb9, "ąş»Ľ˝ľżŔÁÂĂÄĹĆÇČÉĘËĚÍÎĎĐŃŇÓÔŐÖ×ŘŮÚŰÜÝŢßŕáâăäĺćçčéęëěíîďđńňóôőö÷řůúűüýţ˙")] },
  { name := "cp1251"
    aliases := ["1251", "windows_1251"]
    runs := [(0x80, "ЂЃ‚ѓ„…†‡€‰Љ‹ЊЌЋЏђ‘’“”•–—\ufffd™љ›њќћџ\xa0ЎўЈ¤Ґ¦§Ё©Є"),
      (0xaf, "Ї°±Ііґµ¶·ё№є»јЅѕїАБВГДЕЖЗИЙКЛМНОПРСТУФХЦЧШЩЪЫЬЭЮЯабвгдежзийклмнопрстуфхцчшщъыь"),
      (0xfd, "эюя")] },
  { name := "cp1252"
    aliases := ["1252", "windows_1252"]
    runs := [(0x80, "€\ufffd‚ƒ„…†‡ˆ‰Š‹Œ\ufffdŽ\ufffd\ufffd‘’“”•–—˜™š›œ\ufffdžŸ")] },
  { name := "cp1253"
    aliases := ["1253", "windows_1253"]
    runs := [
      (0x80, "€\ufffd‚ƒ„…†‡\ufffd‰\ufffd‹\ufffd\ufffd\ufffd\ufffd\ufffd‘’“”•–—\ufffd™\ufffd›"),
      (0x9c, "\ufffd\ufffd\ufffd\ufffd\xa0΅Ά"), (0xaa, "\ufffd"), (0xaf, "―"),
      (0xb4, "΄µ¶·ΈΉΊ»Ό½ΎΏΐΑΒΓΔΕΖΗΘΙΚΛΜΝΞΟΠΡ\ufffdΣΤΥΦΧΨΩΪΫάέήίΰαβγδεζηθικλμνξοπρςστυφχψωϊϋό"),
      (0xfd, "ύώ\ufffd")] },
  { name := "cp1254"
    aliases := ["1254", "windows_1254"]
    runs := [(0x80, "€\ufffd‚ƒ„…†‡ˆ‰Š‹Œ\ufffd\ufffd\ufffd\ufffd‘’“”•–—˜™š›œ\ufffd\ufffdŸ"),
      (0xd0, "Ğ"), (0xdd, "İŞ"), (0xf0, "ğ"), (0xfd, "ış")] },
  { name := "cp1255"
    aliases := ["1255", "windows_1255"]
    runs := [(0x80, "€\ufffd‚ƒ„…†‡ˆ‰\ufffd‹\ufffd\ufffd\ufffd\ufffd\ufffd‘’“”•–—˜™\ufffd›\ufffd"),
      (0x9d, "\ufffd\ufffd\ufffd"), (0xa4, "₪"), (0xaa, "×"), (0xba, "÷"),
      (0xc0, "\u05b0\u05b1\u05b2\u05b3\u05b4\u05b5\u05b6\u05b7\u05b8\u05b9\ufffd\u05bb\u05bc"),
      (0xcd, "\u05bd\u05be\u05bf\u05c0\u05c1\u05c2\u05c3\u05f0\u05f1\u05f2\u05f3\u05f4\ufffd"),
      (0xda, "\ufffd\ufffd\ufffd\ufffd\ufffd\ufffd\u05d0\u05d1\u05d2\u05d3\u05d4\u05d5\u05d6"),
      (0xe7, "\u05d7\u05d8\u05d9\u05da\u05db\u05dc\u05dd\u05de\u05df\u05e0\u05e1\u05e2\u05e3"),
      (0xf4, "\u05e4\u05e5\u05e6\u05e7\u05e8\u05e9\u05ea\ufffd\ufffd\u200e\u200f\ufffd")] },
  { name := "cp1256"
    aliases := ["1256", "windows_1256"]
    runs := [
      (0x80, "€\u067e‚ƒ„…†‡ˆ‰\u0679‹Œ\u0686\u0698\u0688\u06af‘’“”•–—\u06a9™\u0691›œ\u200c"),
      (0x9e, "\u200d\u06ba\xa0،"), (0xaa, "\u06be"), (0xba, "\u061b"),
      (0xbf, "\u061f\u06c1\u0621\u0622\u0623\u0624\u0625\u0626\u0627\u0628\u0629\u062a\u062b"),
      (0xcc, "\u062c\u062d\u062e\u062f\u0630\u0631\u0632\u0633\u0634\u0635\u0636×\u0637"),
      (0xd9, "\u0638\u0639\u063a\u0640\u0641\u0642\u0643à\u0644â\u0645\u0646\u0647\u0648"),
      (0xec, "\u0649\u064aîï\u064b\u064c\u064d\u064eô\u064f\u0650÷\u0651ù\u0652ûü\u200e"),
      (0xfe, "\u200f\u06d2")] },
  { name := "cp1257"
    aliases := ["1257", "windows_1257"]
    runs := [
      (0x80, "€\ufffd‚\ufffd„…†‡\ufffd‰\ufffd‹\ufffd¨ˇ¸\ufffd‘’“”•–—\ufffd™\ufffd›\ufffd¯˛"),
      (0x9f, "\ufffd\xa0\ufffd¢£¤\ufffd¦§Ø©Ŗ"), (0xaf, "Æ"), (0xb8, "ø¹ŗ"),
      (0xbf, "æĄĮĀĆÄÅĘĒČÉŹĖĢĶĪĻŠŃŅÓŌÕÖ×ŲŁŚŪÜŻŽßąįāćäåęēčéźėģķīļšńņóōõö÷ųłśūüżž˙")] },
  { name := "cp1258"
    aliases := ["1258", "windows_1258"]
    runs := [
      (0x80, "€\ufffd‚ƒ„…†‡ˆ‰\ufffd‹Œ\ufffd\ufffd\ufffd\ufffd‘’“”•–—˜™\ufffd›œ\ufffd\ufffdŸ"),
      (0xc3, "Ă"), (0xcc, "\u0300ÍÎÏĐÑ\u0309ÓÔƠ"), (0xdd, "Ư\u0303"), (0xe3, "ă"),
      (0xec, "\u0301íîïđñ\u0323óôơ"), (0xfd, "ư₫")] }]

/-! ### Character sets of early computers

The sets that personal computers used before windows, with signs for drawing boxes.
-/

/-- The sets of early computers. -/
def dos : List CodePage := [
  { name := "cp437"
    aliases := ["437", "cspc8codepage437", "ibm437"]
    runs := [
      (0x80, "ÇüéâäàåçêëèïîìÄÅÉæÆôöòûùÿÖÜ¢£¥₧ƒáíóúñÑªº¿⌐¬½¼¡«»░▒▓│┤╡╢╖╕╣║╗╝╜╛┐└┴┬├─┼╞╟╚╔╩╦╠═"),
      (0xce, "╬╧╨╤╥╙╘╒╓╫╪┘┌█▄▌▐▀αßΓπΣσµτΦΘΩδ∞φε∩≡±≥≤⌠⌡÷≈°∙·√ⁿ²■\xa0")] },
  { name := "cp720"
    aliases := []
    runs := [(0x82, "éâ\x84à\x86çêëèïî"),
      (0x91, "\u0651\u0652ô¤\u0640ûù\u0621\u0622\u0623\u0624£\u0625\u0626\u0627\u0628\u0629"),
      (0xa2, "\u062a\u062b\u062c\u062d\u062e\u062f\u0630\u0631\u0632\u0633\u0634\u0635«»░▒▓│"),
      (0xb4, "┤╡╢╖╕╣║╗╝╜╛┐└┴┬├─┼╞╟╚╔╩╦╠═╬╧╨╤╥╙╘╒╓╫╪┘┌█▄▌▐▀\u0636\u0637\u0638\u0639\u063a"),
      (0xe5, "\u0641µ\u0642\u0643\u0644\u0645\u0646\u0647\u0648\u0649\u064a≡\u064b\u064c"),
      (0xf3, "\u064d\u064e\u064f\u0650≈°∙·√ⁿ²■\xa0")] },
  { name := "cp737"
    aliases := []
    runs := [
      (0x80, "ΑΒΓΔΕΖΗΘΙΚΛΜΝΞΟΠΡΣΤΥΦΧΨΩαβγδεζηθικλμνξοπρσςτυφχψ░▒▓│┤╡╢╖╕╣║╗╝╜╛┐└┴┬├─┼╞╟╚╔╩╦╠═"),
      (0xce, "╬╧╨╤╥╙╘╒╓╫╪┘┌█▄▌▐▀ωάέήϊίόύϋώΆΈΉΊΌΎΏ±≥≤ΪΫ÷≈°∙·√ⁿ²■\xa0")] },
  { name := "cp775"
    aliases := ["775", "cspc775baltic", "ibm775"]
    runs := [
      (0x80, "ĆüéāäģåćłēŖŗīŹÄÅÉæÆōöĢ¢ŚśÖÜø£Ø×¤ĀĪóŻżź”¦©®¬½¼Ł«»░▒▓│┤ĄČĘĖ╣║╗╝ĮŠ┐└┴┬├─┼ŲŪ╚╔╩╦╠═"),
      (0xce, "╬Žąčęėįšųūž┘┌█▄▌▐▀ÓßŌŃõÕµńĶķĻļņĒŅ’\xad±“¾¶§÷„°∙·¹³²■\xa0")] },
  { name := "cp850"
    aliases := ["850", "cspc850multilingual", "ibm850"]
    runs := [
      (0x80, "ÇüéâäàåçêëèïîìÄÅÉæÆôöòûùÿÖÜø£Ø×ƒáíóúñÑªº¿®¬½¼¡«»░▒▓│┤ÁÂÀ©╣║╗╝¢¥┐└┴┬├─┼ãÃ╚╔╩╦╠═"),
      (0xce, "╬¤ðÐÊËÈıÍÎÏ┘┌█▄¦Ì▀ÓßÔÒõÕµþÞÚÛÙýÝ¯´\xad±‗¾¶§÷¸°¨·¹³²■\xa0")] },
  { name := "cp852"
    aliases := ["852", "cspcp852", "ibm852"]
    runs := [
      (0x80, "ÇüéâäůćçłëŐőîŹÄĆÉĹĺôöĽľŚśÖÜŤťŁ×čáíóúĄąŽžĘę¬źČş«»░▒▓│┤ÁÂĚŞ╣║╗╝Żż┐└┴┬├─┼Ăă╚╔╩╦╠═"),
      (0xce, "╬¤đĐĎËďŇÍÎě┘┌█▄ŢŮ▀ÓßÔŃńňŠšŔÚŕŰýÝţ´\xad˝˛ˇ˘§÷¸°¨˙űŘř■\xa0")] },
  { name := "cp855"
    aliases := ["855", "csibm855", "ibm855"]
    runs := [
      (0x80, "ђЂѓЃёЁєЄѕЅіІїЇјЈљЉњЊћЋќЌўЎџЏюЮъЪаАбБцЦдДеЕфФгГ«»░▒▓│┤хХиИ╣║╗╝йЙ┐└┴┬├─┼кК╚╔╩╦╠═"),
      (0xce, "╬¤лЛмМнНоОп┘┌█▄Пя▀ЯрРсСтТуУжЖвВьЬ№\xadыЫзЗшШэЭщЩчЧ§■\xa0")] },
  { name := "cp856"
    aliases := []
    runs := [
      (0x80, "\u05d0\u05d1\u05d2\u05d3\u05d4\u05d5\u05d6\u05d7\u05d8\u05d9\u05da\u05db\u05dc"),
      (0x8d, "\u05dd\u05de\u05df\u05e0\u05e1\u05e2\u05e3\u05e4\u05e5\u05e6\u05e7\u05e8\u05e9"),
      (0x9a, "\u05ea\ufffd£\ufffd×\ufffd\ufffd\ufffd\ufffd\ufffd\ufffd\ufffd\ufffd\ufffd"),
      (0xa8, "\ufffd®¬½¼\ufffd«»░▒▓│┤\ufffd\ufffd\ufffd©╣║╗╝¢¥┐└┴┬├─┼\ufffd\ufffd╚╔╩╦╠═╬¤"),
      (0xd0, "\ufffd\ufffd\ufffd\ufffd\ufffd\ufffd\ufffd\ufffd\ufffd┘┌█▄¦\ufffd▀\ufffd\ufffd"),
      (0xe2, "\ufffd\ufffd\ufffd\ufffdµ\ufffd\ufffd\ufffd\ufffd\ufffd\ufffd\ufffd¯´\xad±‗¾¶§"),
      (0xf6, "÷¸°¨·¹³²■\xa0")] },
  { name := "cp857"
    aliases := ["857", "csibm857", "ibm857"]
    runs := [
      (0x80, "ÇüéâäàåçêëèïîıÄÅÉæÆôöòûùİÖÜø£ØŞşáíóúñÑĞğ¿®¬½¼¡«»░▒▓│┤ÁÂÀ©╣║╗╝¢¥┐└┴┬├─┼ãÃ╚╔╩╦╠═"),
      (0xce, "╬¤ºªÊËÈ\ufffdÍÎÏ┘┌█▄¦Ì▀ÓßÔÒõÕµ\ufffd×ÚÛÙìÿ¯´\xad±\ufffd¾¶§÷¸°¨·¹³²■\xa0")] },
  { name := "cp858"
    aliases := ["858", "csibm858", "ibm858"]
    runs := [
      (0x80, "ÇüéâäàåçêëèïîìÄÅÉæÆôöòûùÿÖÜø£Ø×ƒáíóúñÑªº¿®¬½¼¡«»░▒▓│┤ÁÂÀ©╣║╗╝¢¥┐└┴┬├─┼ãÃ╚╔╩╦╠═"),
      (0xce, "╬¤ðÐÊËÈ€ÍÎÏ┘┌█▄¦Ì▀ÓßÔÒõÕµþÞÚÛÙýÝ¯´\xad±‗¾¶§÷¸°¨·¹³²■\xa0")] },
  { name := "cp860"
    aliases := ["860", "csibm860", "ibm860"]
    runs := [
      (0x80, "ÇüéâãàÁçêÊèÍÔìÃÂÉÀÈôõòÚùÌÕÜ¢£Ù₧ÓáíóúñÑªº¿Ò¬½¼¡«»░▒▓│┤╡╢╖╕╣║╗╝╜╛┐└┴┬├─┼╞╟╚╔╩╦╠═"),
      (0xce, "╬╧╨╤╥╙╘╒╓╫╪┘┌█▄▌▐▀αßΓπΣσµτΦΘΩδ∞φε∩≡±≥≤⌠⌡÷≈°∙·√ⁿ²■\xa0")] },
  { name := "cp861"
    aliases := ["861", "cp_is", "csibm861", "ibm861"]
    runs := [
      (0x80, "ÇüéâäàåçêëèÐðÞÄÅÉæÆôöþûÝýÖÜø£Ø₧ƒáíóúÁÍÓÚ¿⌐¬½¼¡«»░▒▓│┤╡╢╖╕╣║╗╝╜╛┐└┴┬├─┼╞╟╚╔╩╦╠═"),
      (0xce, "╬╧╨╤╥╙╘╒╓╫╪┘┌█▄▌▐▀αßΓπΣσµτΦΘΩδ∞φε∩≡±≥≤⌠⌡÷≈°∙·√ⁿ²■\xa0")] },
  { name := "cp862"
    aliases := ["862", "cspc862latinhebrew", "ibm862"]
    runs := [
      (0x80, "\u05d0\u05d1\u05d2\u05d3\u05d4\u05d5\u05d6\u05d7\u05d8\u05d9\u05da\u05db\u05dc"),
      (0x8d, "\u05dd\u05de\u05df\u05e0\u05e1\u05e2\u05e3\u05e4\u05e5\u05e6\u05e7\u05e8\u05e9"),
      (0x9a, "\u05ea¢£¥₧ƒáíóúñÑªº¿⌐¬½¼¡«»░▒▓│┤╡╢╖╕╣║╗╝╜╛┐└┴┬├─┼╞╟╚╔╩╦╠═╬╧╨╤╥╙╘╒╓╫╪┘┌█▄▌▐▀αßΓ"),
      (0xe3, "πΣσµτΦΘΩδ∞φε∩≡±≥≤⌠⌡÷≈°∙·√ⁿ²■\xa0")] },
  { name := "cp863"
    aliases := ["863", "csibm863", "ibm863"]
    runs := [
      (0x80, "ÇüéâÂà¶çêëèïî‗À§ÉÈÊôËÏûù¤ÔÜ¢£ÙÛƒ¦´óú¨¸³¯Î⌐¬½¼¾«»░▒▓│┤╡╢╖╕╣║╗╝╜╛┐└┴┬├─┼╞╟╚╔╩╦╠═"),
      (0xce, "╬╧╨╤╥╙╘╒╓╫╪┘┌█▄▌▐▀αßΓπΣσµτΦΘΩδ∞φε∩≡±≥≤⌠⌡÷≈°∙·√ⁿ²■\xa0")] },
  { name := "cp864"
    aliases := ["864", "csibm864", "ibm864"]
    runs := [(0x25, "٪"),
      (0x80, "°·∙√▒─│┼┤┬├┴┐┌└┘β∞φ±½¼≈«»\ufef7\ufef8\ufffd\ufffd\ufefb\ufefc\ufffd\xa0\xad"),
      (0xa2, "\ufe82£¤\ufe84\ufffd\ufffd\ufe8e\ufe8f\ufe95\ufe99،\ufe9d\ufea1\ufea5\u0660"),
      (0xb1, "\u0661\u0662\u0663\u0664\u0665\u0666\u0667\u0668\u0669\ufed1\u061b\ufeb1\ufeb5"),
      (0xbe, "\ufeb9\u061f¢\ufe80\ufe81\ufe83\ufe85\ufeca\ufe8b\ufe8d\ufe91\ufe93\ufe97"),
      (0xcb, "\ufe9b\ufe9f\ufea3\ufea7\ufea9\ufeab\ufead\ufeaf\ufeb3\ufeb7\ufebb\ufebf\ufec1"),
      (0xd8, "\ufec5\ufecb\ufecf¦¬÷×\ufec9\u0640\ufed3\ufed7\ufedb\ufedf\ufee3\ufee7\ufeeb"),
      (0xe8, "\ufeed\ufeef\ufef3\ufebd\ufecc\ufece\ufecd\ufee1\ufe7d\u0651\ufee5\ufee9\ufeec"),
      (0xf5, "\ufef0\ufef2\ufed0\ufed5\ufef5\ufef6\ufedd\ufed9\ufef1■\ufffd")] },
  { name := "cp865"
    aliases := ["865", "csibm865", "ibm865"]
    runs := [
      (0x80, "ÇüéâäàåçêëèïîìÄÅÉæÆôöòûùÿÖÜø£Ø₧ƒáíóúñÑªº¿⌐¬½¼¡«¤░▒▓│┤╡╢╖╕╣║╗╝╜╛┐└┴┬├─┼╞╟╚╔╩╦╠═"),
      (0xce, "╬╧╨╤╥╙╘╒╓╫╪┘┌█▄▌▐▀αßΓπΣσµτΦΘΩδ∞φε∩≡±≥≤⌠⌡÷≈°∙·√ⁿ²■\xa0")] },
  { name := "cp866"
    aliases := ["866", "csibm866", "ibm866"]
    runs := [
      (0x80, "АБВГДЕЖЗИЙКЛМНОПРСТУФХЦЧШЩЪЫЬЭЮЯабвгдежзийклмноп░▒▓│┤╡╢╖╕╣║╗╝╜╛┐└┴┬├─┼╞╟╚╔╩╦╠═"),
      (0xce, "╬╧╨╤╥╙╘╒╓╫╪┘┌█▄▌▐▀рстуфхцчшщъыьэюяЁёЄєЇїЎў°∙·√№¤■\xa0")] },
  { name := "cp869"
    aliases := ["869", "cp_gr", "csibm869", "ibm869"]
    runs := [
      (0x80, "\ufffd\ufffd\ufffd\ufffd\ufffd\ufffdΆ\ufffd·¬¦‘’Έ―ΉΊΪΌ\ufffd\ufffdΎΫ©Ώ²³ά£έήίϊ"),
      (0xa1, "ΐόύΑΒΓΔΕΖΗ½ΘΙ«»░▒▓│┤ΚΛΜΝ╣║╗╝ΞΟ┐└┴┬├─┼ΠΡ╚╔╩╦╠═╬ΣΤΥΦΧΨΩαβγ┘┌█▄δε▀ζηθικλμνξοπρσςτ"),
      (0xef, "΄\xad±υφχ§ψ΅°¨ωϋΰώ■\xa0")] },
  { name := "cp874"
    aliases := []
    runs := [(0x80, "€\ufffd\ufffd\ufffd\ufffd…\ufffd\ufffd\ufffd\ufffd\ufffd\ufffd\ufffd\ufffd"),
      (0x8e, "\ufffd\ufffd\ufffd‘’“”•–—\ufffd\ufffd\ufffd\ufffd\ufffd\ufffd\ufffd\ufffd\xa0ก"),
      (0xa2, "ขฃคฅฆงจฉชซฌญฎฏฐฑฒณดตถทธนบปผฝพฟภมยรฤลฦวศษสหฬอฮฯะ\u0e31าำ\u0e34\u0e35\u0e36"),
      (0xd7, "\u0e37\u0e38\u0e39\u0e3a\ufffd\ufffd\ufffd\ufffd฿เแโใไๅๆ\u0e47\u0e48\u0e49"),
      (0xea, "\u0e4a\u0e4b\u0e4c\u0e4d\u0e4e๏๐๑๒๓๔๕๖๗๘๙๚๛\ufffd\ufffd\ufffd\ufffd")] },
  { name := "cp1006"
    aliases := []
    runs := [
      (0xa1, "۰۱۲۳۴۵۶۷۸۹،\u061b\xad\u061f\ufe81\ufe8d\ufe8e\ufe8e\ufe8f\ufe91\ufb56\ufb58"),
      (0xb7, "\ufe93\ufe95\ufe97\ufb66\ufb68\ufe99\ufe9b\ufe9d\ufe9f\ufb7a\ufb7c\ufea1\ufea3"),
      (0xc4, "\ufea5\ufea7\ufea9\ufb84\ufeab\ufead\ufb8c\ufeaf\ufb8a\ufeb1\ufeb3\ufeb5\ufeb7"),
      (0xd1, "\ufeb9\ufebb\ufebd\ufebf\ufec1\ufec5\ufec9\ufeca\ufecb\ufecc\ufecd\ufece\ufecf"),
      (0xde, "\ufed0\ufed1\ufed3\ufed5\ufed7\ufed9\ufedb\ufb92\ufb94\ufedd\ufedf\ufee0\ufee1"),
      (0xeb, "\ufee3\ufb9e\ufee5\ufee7\ufe85\ufeed\ufba6\ufba8\ufba9\ufbaa\ufe80\ufe89\ufe8a"),
      (0xf8, "\ufe8b\ufef1\ufef2\ufef3\ufbb0\ufbae\ufe7c\ufe7d")] },
  { name := "cp1125"
    aliases := ["1125", "cp866u", "ibm1125", "ruscii"]
    runs := [
      (0x80, "АБВГДЕЖЗИЙКЛМНОПРСТУФХЦЧШЩЪЫЬЭЮЯабвгдежзийклмноп░▒▓│┤╡╢╖╕╣║╗╝╜╛┐└┴┬├─┼╞╟╚╔╩╦╠═"),
      (0xce, "╬╧╨╤╥╙╘╒╓╫╪┘┌█▄▌▐▀рстуфхцчшщъыьэюяЁёҐґЄєІіЇї·√№¤■\xa0")] }]

/-! ### Character sets of the Macintosh

The sets of the Macintosh, each for the letters of some languages.
-/

/-- The sets of the Macintosh. -/
def mac : List CodePage := [
  { name := "mac_arabic"
    aliases := []
    runs := [
      (0x80, "Ä\xa0ÇÉÑÖÜáàâä\u06ba«çéèêëí…îïñó»ôö÷úùûü !\"#$٪&'()*+،\x2d./\u0660\u0661\u0662"),
      (0xb3, "\u0663\u0664\u0665\u0666\u0667\u0668\u0669:\u061b<=>\u061f❊\u0621\u0622\u0623"),
      (0xc4, "\u0624\u0625\u0626\u0627\u0628\u0629\u062a\u062b\u062c\u062d\u062e\u062f\u0630"),
      (0xd1, "\u0631\u0632\u0633\u0634\u0635\u0636\u0637\u0638\u0639\u063a[\\]^_\u0640\u0641"),
      (0xe2, "\u0642\u0643\u0644\u0645\u0646\u0647\u0648\u0649\u064a\u064b\u064c\u064d\u064e"),
      (0xef, "\u064f\u0650\u0651\u0652\u067e\u0679\u0686\u06d5\u06a4\u06af\u0688\u0691\x7b|"),
      (0xfd, "\x7d\u0698\u06d2")] },
  { name := "mac_croatian"
    aliases := []
    runs := [
      (0x80, "ÄÅÇÉÑÖÜáàâäãåçéèêëíìîïñóòôöõúùûü†°¢£§•¶ß®Š™´¨≠ŽØ∞±≤≥∆µ∂∑∏š∫ªºΩžø¿¡¬√ƒ≈Ć«Č…\xa0"),
      (0xcb, "ÀÃÕŒœĐ—“”‘’÷◊\uf8ff©⁄€‹›Æ»–·‚„‰ÂćÁčÈÍÎÏÌÓÔđÒÚÛÙıˆ˜¯πË˚¸Êæˇ")] },
  { name := "mac_cyrillic"
    aliases := ["maccyrillic"]
    runs := [
      (0x80, "АБВГДЕЖЗИЙКЛМНОПРСТУФХЦЧШЩЪЫЬЭЮЯ†°Ґ£§•¶І®©™Ђђ≠Ѓѓ∞±≤≥іµґЈЄєЇїЉљЊњјЅ¬√ƒ≈∆«»…\xa0"),
      (0xcb, "ЋћЌќѕ–—“”‘’÷„ЎўЏџ№Ёёяабвгдежзийклмнопрстуфхцчшщъыьэю€")] },
  { name := "mac_farsi"
    aliases := []
    runs := [
      (0x80, "Ä\xa0ÇÉÑÖÜáàâä\u06ba«çéèêëí…îïñó»ôö÷úùûü !\"#$٪&'()*+،\x2d./۰۱۲۳۴۵۶۷۸۹:\u061b<"),
      (0xbd, "=>\u061f❊\u0621\u0622\u0623\u0624\u0625\u0626\u0627\u0628\u0629\u062a\u062b"),
      (0xcc, "\u062c\u062d\u062e\u062f\u0630\u0631\u0632\u0633\u0634\u0635\u0636\u0637\u0638"),
      (0xd9, "\u0639\u063a[\\]^_\u0640\u0641\u0642\u0643\u0644\u0645\u0646\u0647\u0648\u0649"),
      (0xea, "\u064a\u064b\u064c\u064d\u064e\u064f\u0650\u0651\u0652\u067e\u0679\u0686\u06d5"),
      (0xf7, "\u06a4\u06af\u0688\u0691\x7b|\x7d\u0698\u06d2")] },
  { name := "mac_greek"
    aliases := ["macgreek"]
    runs := [
      (0x80, "Ä¹²É³ÖÜ΅àâä΄¨çéèêë£™îï•½‰ôö¦€ùûü†ΓΔΘΛΞΠß®©ΣΪ§≠°·Α±≤≥¥ΒΕΖΗΙΚΜΦΫΨΩάΝ¬ΟΡ≈Τ«»…\xa0"),
      (0xcb, "ΥΧΆΈœ–―“”‘’÷ΉΊΌΎέήίόΏύαβψδεφγηιξκλμνοπώρστθωςχυζϊϋΐΰ\xad")] },
  { name := "mac_iceland"
    aliases := ["maciceland"]
    runs := [
      (0x80, "ÄÅÇÉÑÖÜáàâäãåçéèêëíìîïñóòôöõúùûüÝ°¢£§•¶ß®©™´¨≠ÆØ∞±≤≥¥µ∂∑∏π∫ªºΩæø¿¡¬√ƒ≈∆«»…\xa0"),
      (0xcb, "ÀÃÕŒœ–—“”‘’÷◊ÿŸ⁄€ÐðÞþý·‚„‰ÂÊÁËÈÍÎÏÌÓÔ\uf8ffÒÚÛÙıˆ˜¯˘˙˚¸˝˛ˇ")] },
  { name := "mac_latin2"
    aliases := ["mac_centeuro", "maccentraleurope", "maclatin2"]
    runs := [
      (0x80, "ÄĀāÉĄÖÜáąČäčĆćéŹźĎíďĒēĖóėôöõúĚěü†°Ę£§•¶ß®©™ę¨≠ģĮįĪ≤≥īĶ∂∑łĻļĽľĹĺŅņŃ¬√ńŇ∆«»…\xa0"),
      (0xcb, "ňŐÕőŌ–—“”‘’÷◊ōŔŕŘ‹›řŖŗŠ‚„šŚśÁŤťÍŽžŪÓÔūŮÚůŰűŲųÝýķŻŁżĢˇ")] },
  { name := "mac_roman"
    aliases := ["macintosh", "macroman"]
    runs := [
      (0x80, "ÄÅÇÉÑÖÜáàâäãåçéèêëíìîïñóòôöõúùûü†°¢£§•¶ß®©™´¨≠ÆØ∞±≤≥¥µ∂∑∏π∫ªºΩæø¿¡¬√ƒ≈∆«»…\xa0"),
      (0xcb, "ÀÃÕŒœ–—“”‘’÷◊ÿŸ⁄€‹›ﬁﬂ‡·‚„‰ÂÊÁËÈÍÎÏÌÓÔ\uf8ffÒÚÛÙıˆ˜¯˘˙˚¸˝˛ˇ")] },
  { name := "mac_romanian"
    aliases := []
    runs := [
      (0x80, "ÄÅÇÉÑÖÜáàâäãåçéèêëíìîïñóòôöõúùûü†°¢£§•¶ß®©™´¨≠ĂȘ∞±≤≥¥µ∂∑∏π∫ªºΩăș¿¡¬√ƒ≈∆«»…\xa0"),
      (0xcb, "ÀÃÕŒœ–—“”‘’÷◊ÿŸ⁄€‹›Țț‡·‚„‰ÂÊÁËÈÍÎÏÌÓÔ\uf8ffÒÚÛÙıˆ˜¯˘˙˚¸˝˛ˇ")] },
  { name := "mac_turkish"
    aliases := ["macturkish"]
    runs := [
      (0x80, "ÄÅÇÉÑÖÜáàâäãåçéèêëíìîïñóòôöõúùûü†°¢£§•¶ß®©™´¨≠ÆØ∞±≤≥¥µ∂∑∏π∫ªºΩæø¿¡¬√ƒ≈∆«»…\xa0"),
      (0xcb, "ÀÃÕŒœ–—“”‘’÷◊ÿŸĞğİıŞş‡·‚„‰ÂÊÁËÈÍÎÏÌÓÔ\uf8ffÒÚÛÙ\uf8a0ˆ˜¯˘˙˚¸˝˛ˇ")] }]

/-! ### Character sets of mainframes

In these sets the octets below 80 are not ASCII.
-/

/-- The sets of mainframes. -/
def ebcdic : List CodePage := [
  { name := "cp037"
    aliases := ["037", "csibm037", "ebcdic_cp_ca", "ebcdic_cp_nl", "ebcdic_cp_us", "ebcdic_cp_wt",
      "ibm037", "ibm039"]
    runs := [(0x4, "\x9c\x09\x86\x7f\x97\x8d\x8e"), (0x14, "\x9d\x85\x08\x87\x18\x19\x92\x8f"),
      (0x20, "\x80\x81\x82\x83\x84\x0a\x17\x1b\x88\x89\x8a\x8b\x8c\x05\x06\x07\x90\x91\x16"),
      (0x33, "\x93\x94\x95\x96\x04\x98\x99\x9a\x9b\x14\x15\x9e\x1a \xa0âäàáãåçñ¢.<(+|&éêëèíî"),
      (0x57, "ïìß!$*);¬\x2d/ÂÄÀÁÃÅÇÑ¦,%_>?øÉÊËÈÍÎÏÌ\x60:#@'=\"Øabcdefghi«»ðýþ±°jklmnopqrªºæ¸"),
      (0x9e, "Æ¤µ~stuvwxyz¡¿ÐÝÞ®^£¥·©§¶¼½¾[]¯¨´×\x7bABCDEFGHI\xadôöòóõ\x7dJKLMNOPQR¹ûüùúÿ\\÷"),
      (0xe2, "STUVWXYZ²ÔÖÒÓÕ0123456789³ÛÜÙÚ\x9f")] },
  { name := "cp273"
    aliases := ["273", "csibm273", "ibm273"]
    runs := [(0x4, "\x9c\x09\x86\x7f\x97\x8d\x8e"), (0x14, "\x9d\x85\x08\x87\x18\x19\x92\x8f"),
      (0x20, "\x80\x81\x82\x83\x84\x0a\x17\x1b\x88\x89\x8a\x8b\x8c\x05\x06\x07\x90\x91\x16"),
      (0x33, "\x93\x94\x95\x96\x04\x98\x99\x9a\x9b\x14\x15\x9e\x1a \xa0â\x7bàáãåçñÄ.<(+!&éêë"),
      (0x54, "èíîïì~Ü$*);^\x2d/Â[ÀÁÃÅÇÑö,%_>?øÉÊËÈÍÎÏÌ\x60:#§'=\"Øabcdefghi«»ðýþ±°jklmnopqrª"),
      (0x9b, "ºæ¸Æ¤µßstuvwxyz¡¿ÐÝÞ®¢£¥·©@¶¼½¾¬|‾¨´×äABCDEFGHI\xadô¦òóõüJKLMNOPQR¹û\x7dùúÿÖ÷S"),
      (0xe3, "TUVWXYZ²Ô\\ÒÓÕ0123456789³Û]ÙÚ\x9f")] },
  { name := "cp424"
    aliases := ["424", "csibm424", "ebcdic_cp_he", "ibm424"]
    runs := [(0x4, "\x9c\x09\x86\x7f\x97\x8d\x8e"), (0x14, "\x9d\x85\x08\x87\x18\x19\x92\x8f"),
      (0x20, "\x80\x81\x82\x83\x84\x0a\x17\x1b\x88\x89\x8a\x8b\x8c\x05\x06\x07\x90\x91\x16"),
      (0x33, "\x93\x94\x95\x96\x04\x98\x99\x9a\x9b\x14\x15\x9e\x1a \u05d0\u05d1\u05d2\u05d3"),
      (0x45, "\u05d4\u05d5\u05d6\u05d7\u05d8¢.<(+|&\u05d9\u05da\u05db\u05dc\u05dd\u05de"),
      (0x57, "\u05df\u05e0\u05e1!$*);¬\x2d/\u05e2\u05e3\u05e4\u05e5\u05e6\u05e7\u05e8\u05e9¦"),
      (0x6b, ",%_>?\ufffd\u05ea\ufffd\ufffd\xa0\ufffd\ufffd\ufffd‗\x60:#@'=\"\ufffdabcdefghi"),
      (0x8a, "«»\ufffd\ufffd\ufffd±°jklmnopqr\ufffd\ufffd\ufffd¸\ufffd¤µ~stuvwxyz\ufffd"),
      (0xab, "\ufffd\ufffd\ufffd\ufffd®^£¥·©§¶¼½¾[]¯¨´×\x7bABCDEFGHI\xad\ufffd\ufffd\ufffd"),
      (0xce, "\ufffd\ufffd\x7dJKLMNOPQR¹\ufffd\ufffd\ufffd\ufffd\ufffd\\÷STUVWXYZ²\ufffd"),
      (0xec, "\ufffd\ufffd\ufffd\ufffd0123456789³\ufffd\ufffd\ufffd\ufffd\x9f")] },
  { name := "cp500"
    aliases := ["500", "csibm500", "ebcdic_cp_be", "ebcdic_cp_ch", "ibm500"]
    runs := [(0x4, "\x9c\x09\x86\x7f\x97\x8d\x8e"), (0x14, "\x9d\x85\x08\x87\x18\x19\x92\x8f"),
      (0x20, "\x80\x81\x82\x83\x84\x0a\x17\x1b\x88\x89\x8a\x8b\x8c\x05\x06\x07\x90\x91\x16"),
      (0x33, "\x93\x94\x95\x96\x04\x98\x99\x9a\x9b\x14\x15\x9e\x1a \xa0âäàáãåçñ[.<(+!&éêëèíî"),
      (0x57, "ïìß]$*);^\x2d/ÂÄÀÁÃÅÇÑ¦,%_>?øÉÊËÈÍÎÏÌ\x60:#@'=\"Øabcdefghi«»ðýþ±°jklmnopqrªºæ¸"),
      (0x9e, "Æ¤µ~stuvwxyz¡¿ÐÝÞ®¢£¥·©§¶¼½¾¬|¯¨´×\x7bABCDEFGHI\xadôöòóõ\x7dJKLMNOPQR¹ûüùúÿ\\÷"),
      (0xe2, "STUVWXYZ²ÔÖÒÓÕ0123456789³ÛÜÙÚ\x9f")] },
  { name := "cp875"
    aliases := []
    runs := [(0x4, "\x9c\x09\x86\x7f\x97\x8d\x8e"), (0x14, "\x9d\x85\x08\x87\x18\x19\x92\x8f"),
      (0x20, "\x80\x81\x82\x83\x84\x0a\x17\x1b\x88\x89\x8a\x8b\x8c\x05\x06\x07\x90\x91\x16"),
      (0x33, "\x93\x94\x95\x96\x04\x98\x99\x9a\x9b\x14\x15\x9e\x1a ΑΒΓΔΕΖΗΘΙ[.<(+!&ΚΛΜΝΞΟΠΡΣ"),
      (0x5a, "]$*);^\x2d/ΤΥΦΧΨΩΪΫ|,%_>?¨ΆΈΉ\xa0ΊΌΎΏ\x60:#@'=\"΅abcdefghiαβγδεζ°jklmnopqrηθικ"),
      (0x9e, "λμ´~stuvwxyzνξοπρσ£άέήϊίόύϋώςτυφχψ\x7bABCDEFGHI\xadωΐΰ‘―\x7dJKLMNOPQR±½\x1a"),
      (0xdd, "\u0387’¦\\\x1aSTUVWXYZ²§\x1a\x1a«¬0123456789³©\x1a\x1a»\x9f")] },
  { name := "cp1026"
    aliases := ["1026", "csibm1026", "ibm1026"]
    runs := [(0x4, "\x9c\x09\x86\x7f\x97\x8d\x8e"), (0x14, "\x9d\x85\x08\x87\x18\x19\x92\x8f"),
      (0x20, "\x80\x81\x82\x83\x84\x0a\x17\x1b\x88\x89\x8a\x8b\x8c\x05\x06\x07\x90\x91\x16"),
      (0x33, "\x93\x94\x95\x96\x04\x98\x99\x9a\x9b\x14\x15\x9e\x1a \xa0âäàáãå\x7bñÇ.<(+!&éêë"),
      (0x54, "èíîïìßĞİ*);^\x2d/ÂÄÀÁÃÅ[Ñş,%_>?øÉÊËÈÍÎÏÌı:ÖŞ'=ÜØabcdefghi«»\x7d\x60¦±°jklmnopq"),
      (0x99, "rªºæ¸Æ¤µöstuvwxyz¡¿]$@®¢£¥·©§¶¼½¾¬|¯¨´×çABCDEFGHI\xadô~òóõğJKLMNOPQR¹û\\ùúÿü÷S"),
      (0xe3, "TUVWXYZ²Ô#ÒÓÕ0123456789³Û\"ÙÚ\x9f")] },
  { name := "cp1140"
    aliases := ["1140", "ibm1140"]
    runs := [(0x4, "\x9c\x09\x86\x7f\x97\x8d\x8e"), (0x14, "\x9d\x85\x08\x87\x18\x19\x92\x8f"),
      (0x20, "\x80\x81\x82\x83\x84\x0a\x17\x1b\x88\x89\x8a\x8b\x8c\x05\x06\x07\x90\x91\x16"),
      (0x33, "\x93\x94\x95\x96\x04\x98\x99\x9a\x9b\x14\x15\x9e\x1a \xa0âäàáãåçñ¢.<(+|&éêëèíî"),
      (0x57, "ïìß!$*);¬\x2d/ÂÄÀÁÃÅÇÑ¦,%_>?øÉÊËÈÍÎÏÌ\x60:#@'=\"Øabcdefghi«»ðýþ±°jklmnopqrªºæ¸"),
      (0x9e, "Æ€µ~stuvwxyz¡¿ÐÝÞ®^£¥·©§¶¼½¾[]¯¨´×\x7bABCDEFGHI\xadôöòóõ\x7dJKLMNOPQR¹ûüùúÿ\\÷"),
      (0xe2, "STUVWXYZ²ÔÖÒÓÕ0123456789³ÛÜÙÚ\x9f")] }]

/-! ### Character sets of single countries and makers

Cyrillic, Thai and other sets that belong to no larger family.
-/

/-- The sets of single countries and makers. -/
def national : List CodePage := [
  { name := "hp_roman8"
    aliases := ["cp1051", "csHPRoman8", "ibm1051", "r8", "roman8"]
    runs := [
      (0xa1, "ÀÂÈÊËÎÏ´ˋˆ¨˜ÙÛ₤¯Ýý°ÇçÑñ¡¿¤£¥§ƒ¢âêôûáéóúàèòùäëöüÅîØÆåíøæÄìÖÜÉïßÔÁÃãÐðÍÌÓÒÕõŠšÚŸ"),
      (0xef, "ÿÞþ·µ¶¾—¼½ªº«■»±\ufffd")] },
  { name := "koi8_r"
    aliases := ["cskoi8r"]
    runs := [
      (0x80, "─│┌┐└┘├┤┬┴┼▀▄█▌▐░▒▓⌠■∙√≈≤≥\xa0⌡°²·÷═║╒ё╓╔╕╖╗╘╙╚╛╜╝╞╟╠╡Ё╢╣╤╥╦╧╨╩╪╫╬©юабцдефгхий"),
      (0xcb, "клмнопярстужвьызшэщчъЮАБЦДЕФГХИЙКЛМНОПЯРСТУЖВЬЫЗШЭЩЧЪ")] },
  { name := "koi8_t"
    aliases := []
    runs := [
      (0x80, "қғ‚Ғ„…†‡\ufffd‰ҳ‹ҲҷҶ\ufffdҚ‘’“”•–—\ufffd™\ufffd›\ufffd\ufffd\ufffd\ufffd\ufffd"),
      (0xa1, "ӯӮё¤ӣ¦§\ufffd\ufffd\ufffd"),
      (0xaf, "\ufffd°±²Ё\ufffdӢ¶·\ufffd№\ufffd»\ufffd\ufffd\ufffd©юабцдефгхийклмнопярстужвьы"),
      (0xda, "зшэщчъЮАБЦДЕФГХИЙКЛМНОПЯРСТУЖВЬЫЗШЭЩЧЪ")] },
  { name := "koi8_u"
    aliases := []
    runs := [
      (0x80, "─│┌┐└┘├┤┬┴┼▀▄█▌▐░▒▓⌠■∙√≈≤≥\xa0⌡°²·÷═║╒ёє╔ії╗╘╙╚╛ґ╝╞╟╠╡ЁЄ╣ІЇ╦╧╨╩╪Ґ╬©юабцдефгхий"),
      (0xcb, "клмнопярстужвьызшэщчъЮАБЦДЕФГХИЙКЛМНОПЯРСТУЖВЬЫЗШЭЩЧЪ")] },
  { name := "kz1048"
    aliases := ["kz_1048", "rk1048", "strk1048_2002"]
    runs := [(0x80, "ЂЃ‚ѓ„…†‡€‰Љ‹ЊҚҺЏђ‘’“”•–—\ufffd™љ›њқһџ\xa0ҰұӘ¤Ө¦§Ё©Ғ"),
      (0xaf, "Ү°±Ііөµ¶·ё№ғ»әҢңүАБВГДЕЖЗИЙКЛМНОПРСТУФХЦЧШЩЪЫЬЭЮЯабвгдежзийклмнопрстуфхцчшщъыь"),
      (0xfd, "эюя")] },
  { name := "palmos"
    aliases := []
    runs := [(0x80, "€\x81‚ƒ„…†‡ˆ‰Š‹Œ♦♣♥♠‘’“”•–—˜™š\x9bœ\x9d\x9eŸ")] },
  { name := "ptcp154"
    aliases := ["cp154", "csptcp154", "cyrillic_asian", "pt154"]
    runs := [
      (0x80, "ҖҒӮғ„…ҶҮҲүҠӢҢҚҺҸҗ‘’“”•–—ҳҷҡӣңқһҹ\xa0ЎўЈӨҘҰ§Ё©Ә«¬ӯ®Ҝ°ұІіҙө¶·ё№ә»јҪҫҝАБВГДЕЖЗИЙК"),
      (0xcb, "ЛМНОПРСТУФХЦЧШЩЪЫЬЭЮЯабвгдежзийклмнопрстуфхцчшщъыьэюя")] },
  { name := "tis_620"
    aliases := ["iso_ir_166", "tis620", "tis_620_0", "tis_620_2529_0", "tis_620_2529_1"]
    runs := [(0xa0, "\ufffdกขฃคฅฆงจฉชซฌญฎฏฐฑฒณดตถทธนบปผฝพฟภมยรฤลฦวศษสหฬอฮฯะ\u0e31าำ\u0e34\u0e35"),
      (0xd6, "\u0e36\u0e37\u0e38\u0e39\u0e3a\ufffd\ufffd\ufffd\ufffd฿เแโใไๅๆ\u0e47\u0e48"),
      (0xe9, "\u0e49\u0e4a\u0e4b\u0e4c\u0e4d\u0e4e๏๐๑๒๓๔๕๖๗๘๙๚๛\ufffd\ufffd\ufffd\ufffd")] }]

end CodePage

end ClientGen.Text
