import TagScript.Xml.CodePage

/-!
# Pages of the Macintosh

The pages of the Macintosh in their first form; readers of some of them take a few bytes for the
characters that later forms put there.
-/

namespace TagScript.Xml.CodePage

/-- The pages of the Macintosh. -/
def macintosh : List CodePage := [
  { full ["macroman", "macintosh", "mac", "csmacintosh"] [
    "ÄÅÇÉÑÖÜáàâäãåçéè",
    "êëíìîïñóòôöõúùûü",
    "†°¢£§•¶ß®©™´¨≠ÆØ",
    "∞±≤≥¥µ∂∑∏π∫ªºΩæø",
    "¿¡¬√ƒ≈∆«»…\u00a0ÀÃÕŒœ",
    "–—“”‘’÷◊ÿŸ⁄¤‹›ﬁﬂ",
    "‡·‚„‰ÂÊÁËÈÍÎÏÌÓÔ",
    "\ufffdÒÚÛÙıˆ˜¯˘˙˚¸˝˛ˇ"] with
    readings := [('Ω', some 'Ω'), ('¤', some '€')] },
  full ["maccentraleurope"] [
    "ÄĀāÉĄÖÜáąČäčĆćéŹ",
    "źĎíďĒēĖóėôöõúĚěü",
    "†°Ę£§•¶ß®©™ę¨≠ģĮ",
    "įĪ≤≥īĶ∂∑łĻļĽľĹĺŅ",
    "ņŃ¬√ńŇ∆«»…\u00a0ňŐÕőŌ",
    "–—“”‘’÷◊ōŔŕŘ‹›řŖ",
    "ŗŠ‚„šŚśÁŤťÍŽžŪÓÔ",
    "ūŮÚůŰűŲųÝýķŻŁżĢˇ"],
  { full ["maciceland"] [
    "ÄÅÇÉÑÖÜáàâäãåçéè",
    "êëíìîïñóòôöõúùûü",
    "Ý°¢£§•¶ß®©™´¨≠ÆØ",
    "∞±≤≥¥µ∂∑∏π∫ªºΩæø",
    "¿¡¬√ƒ≈∆«»…\u00a0ÀÃÕŒœ",
    "–—“”‘’÷◊ÿŸ⁄¤ÐðÞþ",
    "ý·‚„‰ÂÊÁËÈÍÎÏÌÓÔ",
    "\ufffdÒÚÛÙıˆ˜¯˘˙˚¸˝˛ˇ"] with
    readings := [('Ω', some 'Ω'), ('¤', some '€')] },
  full ["maccroatian"] [
    "ÄÅÇÉÑÖÜáàâäãåçéè",
    "êëíìîïñóòôöõúùûü",
    "†°¢£§•¶ß®Š™´¨≠ŽØ",
    "∞±≤≥∆µ∂∑∏š∫ªºΩžø",
    "¿¡¬√ƒ≈Ć«Č…\u00a0ÀÃÕŒœ",
    "Đ—“”‘’÷◊\ufffd©⁄¤‹›Æ»",
    "–·‚„‰ÂćÁčÈÍÎÏÌÓÔ",
    "đÒÚÛÙıˆ˜¯πË˚¸Êæˇ"],
  full ["macromania"] [
    "ÄÅÇÉÑÖÜáàâäãåçéè",
    "êëíìîïñóòôöõúùûü",
    "†°¢£§•¶ß®©™´¨≠ĂŞ",
    "∞±≤≥¥µ∂∑∏π∫ªºΩăş",
    "¿¡¬√ƒ≈∆«»…\u00a0ÀÃÕŒœ",
    "–—“”‘’÷◊ÿŸ⁄¤‹›Ţţ",
    "‡·‚„‰ÂÊÁËÈÍÎÏÌÓÔ",
    "\ufffdÒÚÛÙıˆ˜¯˘˙˚¸˝˛ˇ"],
  { full ["maccyrillic"] [
    "АБВГДЕЖЗИЙКЛМНОП",
    "РСТУФХЦЧШЩЪЫЬЭЮЯ",
    "†°¢£§•¶І®©™Ђђ≠Ѓѓ",
    "∞±≤≥іµ∂ЈЄєЇїЉљЊњ",
    "јЅ¬√ƒ≈∆«»…\u00a0ЋћЌќѕ",
    "–—“”‘’÷„ЎўЏџ№Ёёя",
    "абвгдежзийклмноп",
    "рстуфхцчшщъыьэю¤"] with
    readings := [('¢', some 'Ґ'), ('∂', some 'ґ'), ('¤', some '€')] },
  full ["macukraine"] [
    "АБВГДЕЖЗИЙКЛМНОП",
    "РСТУФХЦЧШЩЪЫЬЭЮЯ",
    "†°Ґ£§•¶І®©™Ђђ≠Ѓѓ",
    "∞±≤≥іµґЈЄєЇїЉљЊњ",
    "јЅ¬√ƒ≈∆«»…\u00a0ЋћЌќѕ",
    "–—“”‘’÷„ЎўЏџ№Ёёя",
    "абвгдежзийклмноп",
    "рстуфхцчшщъыьэю¤"],
  { full ["macgreek"] [
    "Ä¹²É³ÖÜ΅àâä΄¨çéè",
    "êë£™îï•½‰ôö¦\u00adùûü",
    "†ΓΔΘΛΞΠß®©ΣΪ§≠°·",
    "Α±≤≥¥ΒΕΖΗΙΚΜΦΫΨΩ",
    "άΝ¬ΟΡ≈Τ«»…\u00a0ΥΧΆΈœ",
    "–―“”‘’÷ΉΊΌΎέήίόΏ",
    "ύαβψδεφγηιξκλμνο",
    "πώρστθωςχυζϊϋΐΰ\ufffd"] with
    readings := [('\u00ad', some '€'), ('·', some '·')] },
  { full ["macturkish"] [
    "ÄÅÇÉÑÖÜáàâäãåçéè",
    "êëíìîïñóòôöõúùûü",
    "†°¢£§•¶ß®©™´¨≠ÆØ",
    "∞±≤≥¥µ∂∑∏π∫ªºΩæø",
    "¿¡¬√ƒ≈∆«»…\u00a0ÀÃÕŒœ",
    "–—“”‘’÷◊ÿŸĞğİıŞş",
    "‡·‚„‰ÂÊÁËÈÍÎÏÌÓÔ",
    "\ufffdÒÚÛÙ\ufffdˆ˜¯˘˙˚¸˝˛ˇ"] with
    readings := [('Ω', some 'Ω')] },
  full ["machebrew"] [
    "Ä\ufb1fÇÉÑÖÜáàâäãåçéè",
    "êëíìîïñóòôöõúùûü",
    " !\x22#$%₪')(*+,-./",
    "0123456789:;<=>?",
    "\ufffd„\ufffd\ufffd\ufffd\ufffd\u05bc\ufb4b\ufb35…\u00a0\u05b8\u05b7\u05b5\u05b6\u05b4",
    "–—“”‘’\ufb2a\ufb2b\u05bf\u05b0\u05b2\u05b1\u05bb\u05b9\ufffd\u05b3",
    "\u05d0\u05d1\u05d2\u05d3\u05d4\u05d5\u05d6\u05d7",
    "\u05d8\u05d9\u05da\u05db\u05dc\u05dd\u05de\u05df",
    "\u05e0\u05e1\u05e2\u05e3\u05e4\u05e5\u05e6\u05e7\u05e8\u05e9\u05ea\x7d]\x7b[|"],
  full ["macarabic"] [
    "Ä\u00a0ÇÉÑÖÜáàâä\u06ba«çéè",
    "êëí…îïñó»ôö÷úùûü",
    " !\x22#$٪&'()*+،-./",
    "\u0660\u0661\u0662\u0663\u0664\u0665\u0666\u0667\u0668\u0669:\u061b<=>\u061f",
    "❊\u0621\u0622\u0623\u0624\u0625\u0626\u0627",
    "\u0628\u0629\u062a\u062b\u062c\u062d\u062e\u062f",
    "\u0630\u0631\u0632\u0633\u0634\u0635\u0636\u0637\u0638\u0639\u063a[\x5c]^_",
    "\u0640\u0641\u0642\u0643\u0644\u0645\u0646\u0647",
    "\u0648\u0649\u064a\u064b\u064c\u064d\u064e\u064f",
    "\u0650\u0651\u0652\u067e\u0679\u0686\u06d5\u06a4",
    "\u06af\u0688\u0691\x7b|\x7d\u0698\u06d2"],
  full ["macthai"] [
    "«»…\uf88c\uf88f\uf892\uf895\uf898\uf88b\uf88e\uf891\uf894\uf897“”\uf899",
    "\ufffd•\uf884\uf889\uf885\uf886\uf887\uf888\uf88a\uf88d\uf890\uf893\uf896‘’\ufffd",
    "\u00a0\u0e01\u0e02\u0e03\u0e04\u0e05\u0e06\u0e07",
    "\u0e08\u0e09\u0e0a\u0e0b\u0e0c\u0e0d\u0e0e\u0e0f",
    "\u0e10\u0e11\u0e12\u0e13\u0e14\u0e15\u0e16\u0e17",
    "\u0e18\u0e19\u0e1a\u0e1b\u0e1c\u0e1d\u0e1e\u0e1f",
    "\u0e20\u0e21\u0e22\u0e23\u0e24\u0e25\u0e26\u0e27",
    "\u0e28\u0e29\u0e2a\u0e2b\u0e2c\u0e2d\u0e2e\u0e2f",
    "\u0e30\u0e31\u0e32\u0e33\u0e34\u0e35\u0e36\u0e37\u0e38\u0e39\u0e3a\ufeff\u200b–—\u0e3f",
    "\u0e40\u0e41\u0e42\u0e43\u0e44\u0e45\u0e46\u0e47",
    "\u0e48\u0e49\u0e4a\u0e4b\u0e4c\u0e4d™\u0e4f",
    "\u0e50\u0e51\u0e52\u0e53\u0e54\u0e55\u0e56\u0e57\u0e58\u0e59®©\ufffd\ufffd\ufffd\ufffd"]]

end TagScript.Xml.CodePage
