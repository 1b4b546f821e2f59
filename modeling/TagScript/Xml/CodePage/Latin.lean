import TagScript.Xml.CodePage

/-!
# Pages of the standard ISO 8859

The parts of the standard beside the first; some of their bytes are no characters.
-/

namespace TagScript.Xml.CodePage

/-- The pages of ISO 8859 from the second part on. -/
def latin : List CodePage := [
  half ["iso-8859-2", "iso_8859-2", "iso_8859-2:1987", "iso-ir-101", "latin2", "l2",
       "csisolatin2", "iso8859-2"] [
    "\u00a0Ą˘Ł¤ĽŚ§¨ŠŞŤŹ\u00adŽŻ",
    "°ą˛ł´ľśˇ¸šşťź˝žż",
    "ŔÁÂĂÄĹĆÇČÉĘËĚÍÎĎ",
    "ĐŃŇÓÔŐÖ×ŘŮÚŰÜÝŢß",
    "ŕáâăäĺćçčéęëěíîď",
    "đńňóôőö÷řůúűüýţ˙"],
  half ["iso-8859-3", "iso_8859-3", "iso_8859-3:1988", "iso-ir-109", "latin3", "l3",
       "csisolatin3", "iso8859-3"] [
    "\u00a0Ħ˘£¤\ufffdĤ§¨İŞĞĴ\u00ad\ufffdŻ",
    "°ħ²³´µĥ·¸ışğĵ½\ufffdż",
    "ÀÁÂ\ufffdÄĊĈÇÈÉÊËÌÍÎÏ",
    "\ufffdÑÒÓÔĠÖ×ĜÙÚÛÜŬŜß",
    "àáâ\ufffdäċĉçèéêëìíîï",
    "\ufffdñòóôġö÷ĝùúûüŭŝ˙"],
  half ["iso-8859-4", "iso_8859-4", "iso_8859-4:1988", "iso-ir-110", "latin4", "l4",
       "csisolatin4", "iso8859-4"] [
    "\u00a0ĄĸŖ¤ĨĻ§¨ŠĒĢŦ\u00adŽ¯",
    "°ą˛ŗ´ĩļˇ¸šēģŧŊžŋ",
    "ĀÁÂÃÄÅÆĮČÉĘËĖÍÎĪ",
    "ĐŅŌĶÔÕÖ×ØŲÚÛÜŨŪß",
    "āáâãäåæįčéęëėíîī",
    "đņōķôõö÷øųúûüũū˙"],
  half ["iso-8859-5", "iso_8859-5", "iso_8859-5:1988", "iso-ir-144", "cyrillic",
       "csisolatincyrillic", "iso8859-5"] [
    "\u00a0ЁЂЃЄЅІЇЈЉЊЋЌ\u00adЎЏ",
    "АБВГДЕЖЗИЙКЛМНОП",
    "РСТУФХЦЧШЩЪЫЬЭЮЯ",
    "абвгдежзийклмноп",
    "рстуфхцчшщъыьэюя",
    "№ёђѓєѕіїјљњћќ§ўџ"],
  half ["iso-8859-6", "iso_8859-6", "iso_8859-6:1987", "iso-ir-127", "ecma-114",
       "asmo-708", "arabic", "csisolatinarabic", "iso8859-6"] [
    "\u00a0\ufffd\ufffd\ufffd¤\ufffd\ufffd\ufffd\ufffd\ufffd\ufffd\ufffd،\u00ad\ufffd\ufffd",
    "\ufffd\ufffd\ufffd\ufffd\ufffd\ufffd\ufffd\ufffd",
    "\ufffd\ufffd\ufffd\u061b\ufffd\ufffd\ufffd\u061f",
    "\ufffd\u0621\u0622\u0623\u0624\u0625\u0626\u0627",
    "\u0628\u0629\u062a\u062b\u062c\u062d\u062e\u062f",
    "\u0630\u0631\u0632\u0633\u0634\u0635\u0636\u0637",
    "\u0638\u0639\u063a\ufffd\ufffd\ufffd\ufffd\ufffd",
    "\u0640\u0641\u0642\u0643\u0644\u0645\u0646\u0647",
    "\u0648\u0649\u064a\u064b\u064c\u064d\u064e\u064f",
    "\u0650\u0651\u0652\ufffd\ufffd\ufffd\ufffd\ufffd",
    "\ufffd\ufffd\ufffd\ufffd\ufffd\ufffd\ufffd\ufffd"],
  half ["iso-8859-7", "iso_8859-7", "iso_8859-7:1987", "iso_8859-7:2003",
       "iso-ir-126", "ecma-118", "elot_928", "greek8", "greek", "csisolatingreek",
       "iso8859-7"] [
    "\u00a0‘’£€₯¦§¨©ͺ«¬\u00ad\ufffd―",
    "°±²³΄΅Ά·ΈΉΊ»Ό½ΎΏ",
    "ΐΑΒΓΔΕΖΗΘΙΚΛΜΝΞΟ",
    "ΠΡ\ufffdΣΤΥΦΧΨΩΪΫάέήί",
    "ΰαβγδεζηθικλμνξο",
    "πρςστυφχψωϊϋόύώ\ufffd"],
  half ["iso-8859-8", "iso_8859-8", "iso_8859-8:1988", "iso-ir-138", "hebrew",
       "csisolatinhebrew", "iso8859-8"] [
    "\u00a0\ufffd¢£¤¥¦§¨©×«¬\u00ad®¯",
    "°±²³´µ¶·¸¹÷»¼½¾\ufffd",
    "\ufffd\ufffd\ufffd\ufffd\ufffd\ufffd\ufffd\ufffd",
    "\ufffd\ufffd\ufffd\ufffd\ufffd\ufffd\ufffd\ufffd",
    "\ufffd\ufffd\ufffd\ufffd\ufffd\ufffd\ufffd\ufffd",
    "\ufffd\ufffd\ufffd\ufffd\ufffd\ufffd\ufffd‗",
    "\u05d0\u05d1\u05d2\u05d3\u05d4\u05d5\u05d6\u05d7",
    "\u05d8\u05d9\u05da\u05db\u05dc\u05dd\u05de\u05df",
    "\u05e0\u05e1\u05e2\u05e3\u05e4\u05e5\u05e6\u05e7",
    "\u05e8\u05e9\u05ea\ufffd\ufffd\u200e\u200f\ufffd"],
  half ["iso-8859-9", "iso_8859-9", "iso_8859-9:1989", "iso-ir-148", "latin5", "l5",
       "csisolatin5", "iso8859-9"] [
    "\u00a0¡¢£¤¥¦§¨©ª«¬\u00ad®¯",
    "°±²³´µ¶·¸¹º»¼½¾¿",
    "ÀÁÂÃÄÅÆÇÈÉÊËÌÍÎÏ",
    "ĞÑÒÓÔÕÖ×ØÙÚÛÜİŞß",
    "àáâãäåæçèéêëìíîï",
    "ğñòóôõö÷øùúûüışÿ"],
  half ["iso-8859-10", "iso_8859-10", "iso_8859-10:1992", "iso-ir-157", "latin6",
       "l6", "csisolatin6", "iso8859-10"] [
    "\u00a0ĄĒĢĪĨĶ§ĻĐŠŦŽ\u00adŪŊ",
    "°ąēģīĩķ·ļđšŧž―ūŋ",
    "ĀÁÂÃÄÅÆĮČÉĘËĖÍÎÏ",
    "ÐŅŌÓÔÕÖŨØŲÚÛÜÝÞß",
    "āáâãäåæįčéęëėíîï",
    "ðņōóôõöũøųúûüýþĸ"],
  half ["iso-8859-11", "iso_8859-11", "iso8859-11"] [
    "\u00a0\u0e01\u0e02\u0e03\u0e04\u0e05\u0e06\u0e07",
    "\u0e08\u0e09\u0e0a\u0e0b\u0e0c\u0e0d\u0e0e\u0e0f",
    "\u0e10\u0e11\u0e12\u0e13\u0e14\u0e15\u0e16\u0e17",
    "\u0e18\u0e19\u0e1a\u0e1b\u0e1c\u0e1d\u0e1e\u0e1f",
    "\u0e20\u0e21\u0e22\u0e23\u0e24\u0e25\u0e26\u0e27",
    "\u0e28\u0e29\u0e2a\u0e2b\u0e2c\u0e2d\u0e2e\u0e2f",
    "\u0e30\u0e31\u0e32\u0e33\u0e34\u0e35\u0e36\u0e37",
    "\u0e38\u0e39\u0e3a\ufffd\ufffd\ufffd\ufffd\u0e3f",
    "\u0e40\u0e41\u0e42\u0e43\u0e44\u0e45\u0e46\u0e47",
    "\u0e48\u0e49\u0e4a\u0e4b\u0e4c\u0e4d\u0e4e\u0e4f",
    "\u0e50\u0e51\u0e52\u0e53\u0e54\u0e55\u0e56\u0e57",
    "\u0e58\u0e59\u0e5a\u0e5b\ufffd\ufffd\ufffd\ufffd"],
  half ["iso-8859-13", "iso_8859-13", "iso-ir-179", "latin7", "l7", "iso8859-13"] [
    "\u00a0”¢£¤„¦§Ø©Ŗ«¬\u00ad®Æ",
    "°±²³“µ¶·ø¹ŗ»¼½¾æ",
    "ĄĮĀĆÄÅĘĒČÉŹĖĢĶĪĻ",
    "ŠŃŅÓŌÕÖ×ŲŁŚŪÜŻŽß",
    "ąįāćäåęēčéźėģķīļ",
    "šńņóōõö÷ųłśūüżž’"],
  half ["iso-8859-14", "iso_8859-14", "iso_8859-14:1998", "iso-ir-199", "latin8",
       "l8", "iso-celtic", "iso8859-14"] [
    "\u00a0Ḃḃ£ĊċḊ§Ẁ©ẂḋỲ\u00ad®Ÿ",
    "ḞḟĠġṀṁ¶ṖẁṗẃṠỳẄẅṡ",
    "ÀÁÂÃÄÅÆÇÈÉÊËÌÍÎÏ",
    "ŴÑÒÓÔÕÖṪØÙÚÛÜÝŶß",
    "àáâãäåæçèéêëìíîï",
    "ŵñòóôõöṫøùúûüýŷÿ"],
  half ["iso-8859-15", "iso_8859-15", "iso_8859-15:1998", "iso-ir-203", "latin-9",
       "iso8859-15"] [
    "\u00a0¡¢£€¥Š§š©ª«¬\u00ad®¯",
    "°±²³Žµ¶·ž¹º»ŒœŸ¿",
    "ÀÁÂÃÄÅÆÇÈÉÊËÌÍÎÏ",
    "ÐÑÒÓÔÕÖ×ØÙÚÛÜÝÞß",
    "àáâãäåæçèéêëìíîï",
    "ðñòóôõö÷øùúûüýþÿ"],
  half ["iso-8859-16", "iso_8859-16", "iso_8859-16:2001", "iso-ir-226", "latin10",
       "l10", "iso8859-16"] [
    "\u00a0ĄąŁ€„Š§š©Ș«Ź\u00adźŻ",
    "°±ČłŽ”¶·žčș»ŒœŸż",
    "ÀÁÂĂÄĆÆÇÈÉÊËÌÍÎÏ",
    "ĐŃÒÓÔŐÖŚŰÙÚÛÜĘȚß",
    "àáâăäćæçèéêëìíîï",
    "đńòóôőöśűùúûüęțÿ"]]

end TagScript.Xml.CodePage
