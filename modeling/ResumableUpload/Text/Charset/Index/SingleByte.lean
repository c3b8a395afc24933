import ResumableUpload.Text.Charset.Index.Basic

/-! Sets of one byte a character: their characters from 0x80 on. -/

namespace ResumableUpload.Text.Charset.Index

def ibm866 : Index := ofBlocks [
  run 0x410 48,
  text "░▒▓│┤╡╢╖╕╣║╗╝╜╛┐└┴┬├─┼╞╟╚╔╩╦╠═╬╧╨╤╥╙╘╒╓╫╪┘┌█▄▌▐▀рстуфхцчшщъыьэюяЁёЄєЇїЎў°∙·√№¤■\u00a0"]

def latin2 : Index := ofBlocks [
  run 0x80 33,
  text "Ą˘Ł¤ĽŚ§¨ŠŞŤŹ\u00adŽŻ°ą˛ł´ľśˇ¸šşťź˝žżŔÁÂĂÄĹĆÇČÉĘËĚÍÎĎĐŃŇÓÔŐÖ×ŘŮÚŰÜÝŢßŕáâăäĺćçčéęëěíîďđńňóôőö÷řůúűüýţ˙"]

def latin3 : Index := ofBlocks [
  run 0x80 33,
  text "Ħ˘£¤.Ĥ§¨İŞĞĴ\u00ad.Ż°ħ²³´µĥ·¸ışğĵ½.żÀÁÂ.ÄĊĈÇÈÉÊËÌÍÎÏ.ÑÒÓÔĠÖ×ĜÙÚÛÜŬŜßàáâ.äċĉçèéêëìíîï.ñòóôġö÷ĝùúûüŭŝ˙"]

def latin4 : Index := ofBlocks [
  run 0x80 33,
  text "ĄĸŖ¤ĨĻ§¨ŠĒĢŦ\u00adŽ¯°ą˛ŗ´ĩļˇ¸šēģŧŊžŋĀÁÂÃÄÅÆĮČÉĘËĖÍÎĪĐŅŌĶÔÕÖ×ØŲÚÛÜŨŪßāáâãäåæįčéęëėíîīđņōķôõö÷øųúûüũū˙"]

def isoCyrillic : Index := ofBlocks [
  run 0x80 33, text "ЁЂЃЄЅІЇЈЉЊЋЌ\u00ad", run 0x40e 66, text "№ёђѓєѕіїјљњћќ§ўџ"]

def isoArabic : Index := ofBlocks [
  run 0x80 33, text "...¤.......،\u00ad", gap 13, text "\u061b...\u061f.", run 0x621 26,
  text ".....", run 0x640 19, gap 13]

def isoGreek : Index := ofBlocks [
  run 0x80 33, text "‘’£€₯¦§¨©ͺ«¬\u00ad.―°±²³΄΅Ά·ΈΉΊ»Ό½ΎΏΐΑΒΓΔΕΖΗΘΙΚΛΜΝΞΟΠΡ.", run 0x3a3 44,
  text "."]

def isoHebrew : Index := ofBlocks [
  run 0x80 33, text ".¢£¤¥¦§¨©×«¬\u00ad®¯°±²³´µ¶·¸¹÷»¼½¾", gap 32, text "‗", run 0x5d0 27,
  text "..\u200e\u200f."]

def latin6 : Index := ofBlocks [
  run 0x80 33,
  text "ĄĒĢĪĨĶ§ĻĐŠŦŽ\u00adŪŊ°ąēģīĩķ·ļđšŧž―ūŋĀÁÂÃÄÅÆĮČÉĘËĖÍÎÏÐŅŌÓÔÕÖŨØŲÚÛÜÝÞßāáâãäåæįčéęëėíîïðņōóôõöũøųúûüýþĸ"]

def latin7 : Index := ofBlocks [
  run 0x80 33,
  text "”¢£¤„¦§Ø©Ŗ«¬\u00ad®Æ°±²³“µ¶·ø¹ŗ»¼½¾æĄĮĀĆÄÅĘĒČÉŹĖĢĶĪĻŠŃŅÓŌÕÖ×ŲŁŚŪÜŻŽßąįāćäåęēčéźėģķīļšńņóōõö÷ųłśūüżž’"]

def latin8 : Index := ofBlocks [
  run 0x80 33,
  text "Ḃḃ£ĊċḊ§Ẁ©ẂḋỲ\u00ad®ŸḞḟĠġṀṁ¶ṖẁṗẃṠỳẄẅṡÀÁÂÃÄÅÆÇÈÉÊËÌÍÎÏŴÑÒÓÔÕÖṪØÙÚÛÜÝŶßàáâãäåæçèéêëìíîïŵñòóôõöṫøùúûüýŷÿ"]

def latin9 : Index := ofBlocks [
  run 0x80 36, text "€¥Š§š©ª«¬\u00ad®¯°±²³Žµ¶·ž¹º»ŒœŸ", run 0xbf 65]

def latin10 : Index := ofBlocks [
  run 0x80 33,
  text "ĄąŁ€„Š§š©Ș«Ź\u00adźŻ°±ČłŽ”¶·žčș»ŒœŸżÀÁÂĂÄĆÆÇÈÉÊËÌÍÎÏĐŃÒÓÔŐÖŚŰÙÚÛÜĘȚßàáâăäćæçèéêëìíîïđńòóôőöśűùúûüęțÿ"]

def koi8r : Index := ofBlocks [
  text "
─│┌┐└┘├┤┬┴┼▀▄█▌▐░▒▓⌠■∙√≈≤≥\u00a0⌡°²·÷═║╒ё╓╔╕╖╗╘╙╚╛╜╝╞╟╠╡Ё╢╣╤╥╦╧╨╩╪╫╬©юабцдефгхийклмнопярстужвьыз
шэщчъЮАБЦДЕФГХИЙКЛМНОПЯРСТУЖВЬЫЗШЭЩЧЪ"]

def koi8u : Index := ofBlocks [
  text "
─│┌┐└┘├┤┬┴┼▀▄█▌▐░▒▓⌠■∙√≈≤≥\u00a0⌡°²·÷═║╒ёє╔ії╗╘╙╚╛ґў╞╟╠╡ЁЄ╣ІЇ╦╧╨╩╪ҐЎ©юабцдефгхийклмнопярстужвьыз
шэщчъЮАБЦДЕФГХИЙКЛМНОПЯРСТУЖВЬЫЗШЭЩЧЪ"]

def macintosh : Index := ofBlocks [
  text "
ÄÅÇÉÑÖÜáàâäãåçéèêëíìîïñóòôöõúùûü†°¢£§•¶ß®©™´¨≠ÆØ∞±≤≥¥µ∂∑∏π∫ªºΩæø¿¡¬√ƒ≈∆«»…\u00a0ÀÃÕŒœ–—“”‘’÷◊ÿŸ⁄
€‹›ﬁﬂ‡·‚„‰ÂÊÁËÈÍÎÏÌÓÔ\uf8ffÒÚÛÙıˆ˜¯˘˙˚¸˝˛ˇ"]

def macCyrillic : Index := ofBlocks [
  run 0x410 32, text "†°Ґ£§•¶І®©™Ђђ≠Ѓѓ∞±≤≥іµґЈЄєЇїЉљЊњјЅ¬√ƒ≈∆«»…\u00a0ЋћЌќѕ–—“”‘’÷„ЎўЏџ№Ёёя",
  run 0x430 31, text "€"]

def windows874 : Index := ofBlocks [
  text "€", run 0x81 4, text "…", run 0x86 11, text "‘’“”•–—", run 0x98 9, run 0xe01 58,
  text "....", run 0xe3f 29, text "...."]

def windows1250 : Index := ofBlocks [
  text "
€\u0081‚\u0083„…†‡\u0088‰Š‹ŚŤŽŹ\u0090‘’“”•–—\u0098™š›śťžź\u00a0ˇ˘Ł¤Ą¦§¨©Ş«¬\u00ad®Ż°±˛ł´µ¶·¸ąş»Ľ
˝ľżŔÁÂĂÄĹĆÇČÉĘËĚÍÎĎĐŃŇÓÔŐÖ×ŘŮÚŰÜÝŢßŕáâăäĺćçčéęëěíîďđńňóôőö÷řůúűüýţ˙"]

def windows1251 : Index := ofBlocks [
  text "ЂЃ‚ѓ„…†‡€‰Љ‹ЊЌЋЏђ‘’“”•–—\u0098™љ›њќћџ\u00a0ЎўЈ¤Ґ¦§Ё©Є«¬\u00ad®Ї°±Ііґµ¶·ё№є»јЅѕї",
  run 0x410 64]

def windows1252 : Index := ofBlocks [
  text "€\u0081‚ƒ„…†‡ˆ‰Š‹Œ\u008dŽ\u008f\u0090‘’“”•–—˜™š›œ\u009džŸ", run 0xa0 96]

def windows1253 : Index := ofBlocks [
  text "€\u0081‚ƒ„…†‡\u0088‰\u008a‹", run 0x8c 5, text "‘’“”•–—\u0098™\u009a›", run 0x9c 5,
  text "΅Ά£¤¥¦§¨©.«¬\u00ad®―°±²³΄µ¶·ΈΉΊ»Ό½ΎΏΐΑΒΓΔΕΖΗΘΙΚΛΜΝΞΟΠΡ.", run 0x3a3 44, text "."]

def windows1254 : Index := ofBlocks [
  text "€\u0081‚ƒ„…†‡ˆ‰Š‹Œ", run 0x8d 4, text "‘’“”•–—˜™š›œ\u009d\u009eŸ", run 0xa0 48,
  text "ĞÑÒÓÔÕÖ×ØÙÚÛÜİŞßàáâãäåæçèéêëìíîïğñòóôõö÷øùúûüışÿ"]

def windows1255 : Index := ofBlocks [
  text "€\u0081‚ƒ„…†‡ˆ‰\u008a‹", run 0x8c 5,
  text "‘’“”•–—˜™\u009a›\u009c\u009d\u009e\u009f\u00a0¡¢£₪¥¦§¨©×«¬\u00ad®¯°±²³´µ¶·¸¹÷»¼½¾¿",
  run 0x5b0 20, run 0x5f0 5, text ".......", run 0x5d0 27, text "..\u200e\u200f."]

def windows1256 : Index := ofBlocks [
  text "
€\u067e‚ƒ„…†‡ˆ‰\u0679‹Œ\u0686\u0698\u0688\u06af‘’“”•–—\u06a9™\u0691›œ\u200c\u200d\u06ba\u00a0،¢£
¤¥¦§¨©\u06be«¬\u00ad®¯°±²³´µ¶·¸¹\u061b»¼½¾\u061f\u06c1",
  run 0x621 22, text "×", run 0x637 4, run 0x640 4, text "à\u0644â", run 0x645 4,
  text "çèéêë\u0649\u064aîï", run 0x64b 4, text "ô\u064f\u0650÷\u0651ù\u0652ûü\u200e\u200f\u06d2"]

def windows1257 : Index := ofBlocks [
  text "
€\u0081‚\u0083„…†‡\u0088‰\u008a‹\u008c¨ˇ¸\u0090‘’“”•–—\u0098™\u009a›\u009c¯˛\u009f\u00a0.¢£¤.¦§Ø
©Ŗ«¬\u00ad®Æ°±²³´µ¶·ø¹ŗ»¼½¾æĄĮĀĆÄÅĘĒČÉŹĖĢĶĪĻŠŃŅÓŌÕÖ×ŲŁŚŪÜŻŽßąįāćäåęēčéźėģķīļšńņóōõö÷ųłśūüżž˙"]

def windows1258 : Index := ofBlocks [
  text "€\u0081‚ƒ„…†‡ˆ‰\u008a‹Œ", run 0x8d 4, text "‘’“”•–—˜™\u009a›œ\u009d\u009eŸ", run 0xa0 35,
  text "ĂÄÅÆÇÈÉÊË\u0300ÍÎÏĐÑ\u0309ÓÔƠÖ×ØÙÚÛÜƯ\u0303ßàáâăäåæçèéêë\u0301íîïđñ\u0323óôơö÷øùúûüư₫ÿ"]

def userDefined : Index := ofBlocks [
  run 0xf780 128]

end ResumableUpload.Text.Charset.Index
