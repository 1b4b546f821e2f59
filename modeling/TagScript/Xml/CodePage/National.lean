import TagScript.Xml.CodePage
import TagScript.Xml.CodePage.Parts

/-!
# Pages of nations

Pages made for the scripts of single nations. A few of them put letters or signs in places of ASCII.
-/

namespace TagScript.Xml.CodePage

/-- The pages of nations. -/
def national : List CodePage := [
  full ["koi8-r", "cskoi8r"] [
    "─│┌┐└┘├┤┬┴┼▀▄█▌▐",
    "░▒▓⌠■∙√≈≤≥\u00a0⌡°²·÷",
    "═║╒ё╓╔╕╖╗╘╙╚╛╜╝╞",
    "╟╠╡Ё╢╣╤╥╦╧╨╩╪╫╬©",
    "юабцдефгхийклмно",
    "пярстужвьызшэщчъ",
    "ЮАБЦДЕФГХИЙКЛМНО",
    "ПЯРСТУЖВЬЫЗШЭЩЧЪ"],
  full ["koi8-u"] [
    "─│┌┐└┘├┤┬┴┼▀▄█▌▐",
    "░▒▓⌠■∙√≈≤≥\u00a0⌡°²·÷",
    "═║╒ёє╔ії╗╘╙╚╛ґ╝╞",
    "╟╠╡ЁЄ╣ІЇ╦╧╨╩╪Ґ╬©",
    "юабцдефгхийклмно",
    "пярстужвьызшэщчъ",
    "ЮАБЦДЕФГХИЙКЛМНО",
    "ПЯРСТУЖВЬЫЗШЭЩЧЪ"],
  full ["koi8-ru"] [
    "─│┌┐└┘├┤┬┴┼▀▄█▌▐",
    "░▒▓⌠■∙√≈≤≥\u00a0⌡°²·÷",
    "═║╒ёє╔ії╗╘╙╚╛ґў╞",
    "╟╠╡ЁЄ╣ІЇ╦╧╨╩╪ҐЎ©",
    "юабцдефгхийклмно",
    "пярстужвьызшэщчъ",
    "ЮАБЦДЕФГХИЙКЛМНО",
    "ПЯРСТУЖВЬЫЗШЭЩЧЪ"],
  full ["koi8-t"] [
    "қғ‚Ғ„…†‡\ufffd‰ҳ‹ҲҷҶ\ufffd",
    "Қ‘’“”•–—\ufffd™\ufffd›\ufffd\ufffd\ufffd\ufffd",
    "\ufffdӯӮё¤ӣ¦§\ufffd\ufffd\ufffd«¬\u00ad®\ufffd",
    "°±²Ё\ufffdӢ¶·\ufffd№\ufffd»\ufffd\ufffd\ufffd©",
    "юабцдефгхийклмно",
    "пярстужвьызшэщчъ",
    "ЮАБЦДЕФГХИЙКЛМНО",
    "ПЯРСТУЖВЬЫЗШЭЩЧЪ"],
  { half ["armscii-8"] [
    "\u00a0\ufffdև։)(»«—.՝,-֊…՜",
    "՛՞ԱաԲբԳգԴդԵեԶզԷէ",
    "ԸըԹթԺժԻիԼլԽխԾծԿկ",
    "ՀհՁձՂղՃճՄմՅյՆնՇշ",
    "ՈոՉչՊպՋջՌռՍսՎվՏտ",
    "ՐրՑցՒւՓփՔքՕօՖֆ՚\ufffd"] with
    special := [('(', 165), (')', 164), (',', 171), ('-', 172), ('.', 169)] },
  full ["georgian-academy"] [
    "\u0080\u0081‚ƒ„…†‡ˆ‰Š‹Œ\u008d\u008e\u008f",
    "\u0090‘’“”•–—˜™š›œ\u009d\u009eŸ",
    "\u00a0¡¢£¤¥¦§¨©ª«¬\u00ad®¯",
    "°±²³´µ¶·¸¹º»¼½¾¿",
    "\u10d0\u10d1\u10d2\u10d3\u10d4\u10d5\u10d6\u10d7",
    "\u10d8\u10d9\u10da\u10db\u10dc\u10dd\u10de\u10df",
    "\u10e0\u10e1\u10e2\u10e3\u10e4\u10e5\u10e6\u10e7",
    "\u10e8\u10e9\u10ea\u10eb\u10ec\u10ed\u10ee\u10ef",
    "\u10f0\u10f1\u10f2\u10f3\u10f4\u10f5\u10f6çèéêëìíîï",
    "ðñòóôõö÷øùúûüýþÿ"],
  full ["georgian-ps"] [
    "\u0080\u0081‚ƒ„…†‡ˆ‰Š‹Œ\u008d\u008e\u008f",
    "\u0090‘’“”•–—˜™š›œ\u009d\u009eŸ",
    "\u00a0¡¢£¤¥¦§¨©ª«¬\u00ad®¯",
    "°±²³´µ¶·¸¹º»¼½¾¿",
    "\u10d0\u10d1\u10d2\u10d3\u10d4\u10d5\u10d6\u10f1",
    "\u10d7\u10d8\u10d9\u10da\u10db\u10dc\u10f2\u10dd",
    "\u10de\u10df\u10e0\u10e1\u10e2\u10f3\u10e3\u10e4",
    "\u10e5\u10e6\u10e7\u10e8\u10e9\u10ea\u10eb\u10ec\u10ed\u10ee\u10f4\u10ef\u10f0\u10f5æç",
    "èéêëìíîïðñòóôõö÷",
    "øùúûüýþÿ"],
  full ["pt154", "ptcp154", "cp154", "cyrillic-asian", "csptcp154"] [
    "ҖҒӮғ„…ҶҮҲүҠӢҢҚҺҸ",
    "җ‘’“”•–—ҳҷҡӣңқһҹ",
    "\u00a0ЎўЈӨҘҰ§Ё©Ә«¬ӯ®Ҝ",
    "°ұІіҙө¶·ё№ә»јҪҫҝ",
    "АБВГДЕЖЗИЙКЛМНОП",
    "РСТУФХЦЧШЩЪЫЬЭЮЯ",
    "абвгдежзийклмноп",
    "рстуфхцчшщъыьэюя"],
  full ["rk1048", "strk1048-2002", "kz-1048", "cskz1048"] [
    "ЂЃ‚ѓ„…†‡€‰Љ‹ЊҚҺЏ",
    "ђ‘’“”•–—\ufffd™љ›њқһџ",
    "\u00a0ҰұӘ¤Ө¦§Ё©Ғ«¬\u00ad®Ү",
    "°±Ііөµ¶·ё№ғ»әҢңү",
    "АБВГДЕЖЗИЙКЛМНОП",
    "РСТУФХЦЧШЩЪЫЬЭЮЯ",
    "абвгдежзийклмноп",
    "рстуфхцчшщъыьэюя"],
  half ["mulelao-1"] [
    "\u00a0\u0e81\u0e82\ufffd\u0e84\ufffd\ufffd\u0e87",
    "\u0e88\ufffd\u0e8a\ufffd\ufffd\u0e8d\ufffd\ufffd",
    "\ufffd\ufffd\ufffd\ufffd\u0e94\u0e95\u0e96\u0e97",
    "\ufffd\u0e99\u0e9a\u0e9b\u0e9c\u0e9d\u0e9e\u0e9f",
    "\ufffd\u0ea1\u0ea2\u0ea3\ufffd\u0ea5\ufffd\u0ea7",
    "\ufffd\ufffd\u0eaa\u0eab\ufffd\u0ead\u0eae\u0eaf",
    "\u0eb0\u0eb1\u0eb2\u0eb3\u0eb4\u0eb5\u0eb6\u0eb7",
    "\u0eb8\u0eb9\ufffd\u0ebb\u0ebc\u0ebd\ufffd\ufffd",
    "\u0ec0\u0ec1\u0ec2\u0ec3\u0ec4\ufffd\u0ec6\ufffd",
    "\u0ec8\u0ec9\u0eca\u0ecb\u0ecc\u0ecd\ufffd\ufffd",
    "\u0ed0\u0ed1\u0ed2\u0ed3\u0ed4\u0ed5\u0ed6\u0ed7",
    "\u0ed8\u0ed9\ufffd\ufffd\u0edc\u0edd\ufffd\ufffd"],
  full ["tis-620", "tis620", "tis620-0", "tis620.2529-1", "tis620.2533-0",
       "tis620.2533-1", "iso-ir-166"] [
    "\ufffd\ufffd\ufffd\ufffd\ufffd\ufffd\ufffd\ufffd",
    "\ufffd\ufffd\ufffd\ufffd\ufffd\ufffd\ufffd\ufffd",
    "\ufffd\ufffd\ufffd\ufffd\ufffd\ufffd\ufffd\ufffd",
    "\ufffd\ufffd\ufffd\ufffd\ufffd\ufffd\ufffd\ufffd",
    "\ufffd\u0e01\u0e02\u0e03\u0e04\u0e05\u0e06\u0e07",
    "\u0e08\u0e09\u0e0a\u0e0b\u0e0c\u0e0d\u0e0e\u0e0f",
    "\u0e10\u0e11\u0e12\u0e13\u0e14\u0e15\u0e16\u0e17",
    "\u0e18\u0e19\u0e1a\u0e1b\u0e1c\u0e1d\u0e1e\u0e1f",
    "\u0e20\u0e21\u0e22\u0e23\u0e24\u0e25\u0e26\u0e27",
    "\u0e28\u0e29\u0e2a\u0e2b\u0e2c\u0e2d\u0e2e\u0e2f",
    "\u0e30\u0e31\u0e32\u0e33\u0e34\u0e35\u0e36\u0e37",
    "\u0e38\u0e39\u0e3a\ufffd\ufffd\ufffd\ufffd\u0e3f",
    "\u0e40\u0e41\u0e42\u0e43\u0e44\u0e45\u0e46\u0e47",
    "\u0e48\u0e49\u0e4a\u0e4b\u0e4c\u0e4d\u0e4e\u0e4f",
    "\u0e50\u0e51\u0e52\u0e53\u0e54\u0e55\u0e56\u0e57",
    "\u0e58\u0e59\u0e5a\u0e5b\ufffd\ufffd\ufffd\ufffd"],
  { full ["viscii", "viscii1.1-1", "csviscii"] [
    "ẠẮẰẶẤẦẨẬẼẸẾỀỂỄỆỐ",
    "ỒỔỖỘỢỚỜỞỊỎỌỈỦŨỤỲ",
    "Õắằặấầẩậẽẹếềểễệố",
    "ồổỗỠƠộờởịỰỨỪỬơớƯ",
    "ÀÁÂÃẢĂẳẵÈÉÊẺÌÍĨỳ",
    "ĐứÒÓÔạỷừửÙÚỹỵÝỡư",
    "àáâãảăữẫèéêẻìíĩỉ",
    "đựòóôõỏọụùúũủýợỮ"] with
    special := [('Ẳ', 2), ('Ẵ', 5), ('Ẫ', 6), ('Ỷ', 20), ('Ỹ', 25), ('Ỵ', 30)] },
  { full ["tcvn", "tcvn-5712", "tcvn5712-1", "tcvn5712-1:1993"] [
    "ÀẢÃÁẠẶẬÈẺẼÉẸỆÌỈĨ",
    "ÍỊÒỎÕÓỌỘỜỞỠỚỢÙỦŨ",
    "\u00a0ĂÂÊÔƠƯĐăâêôơưđẰ",
    "\u0300\u0309\u0303\u0301\u0323àảãáạẲằẳẵắẴ",
    "ẮẦẨẪẤỀặầẩẫấậèỂẻẽ",
    "éẹềểễếệìỉỄẾỒĩíịò",
    "Ổỏõóọồổỗốộờởỡớợù",
    "ỖủũúụừửữứựỳỷỹýỵỐ"] with
    special := [('Ú', 1), ('Ụ', 2), ('Ừ', 4), ('Ử', 5), ('Ữ', 6), ('Ứ', 17), ('Ự', 18), ('Ỳ', 19),
       ('Ỷ', 20), ('Ỹ', 21), ('Ý', 22), ('Ỵ', 23)],
    parts := vietnameseParts },
  { low ["jis_c6220-1969-ro", "iso646-jp", "iso-ir-14", "jp", "csiso14jisc6220ro"] with
    special := [('¥', 92), ('‾', 126)] },
  { full ["jis_x0201", "jisx0201-1976", "x0201", "cshalfwidthkatakana"] [
    "\ufffd\ufffd\ufffd\ufffd\ufffd\ufffd\ufffd\ufffd",
    "\ufffd\ufffd\ufffd\ufffd\ufffd\ufffd\ufffd\ufffd",
    "\ufffd\ufffd\ufffd\ufffd\ufffd\ufffd\ufffd\ufffd",
    "\ufffd\ufffd\ufffd\ufffd\ufffd\ufffd\ufffd\ufffd\ufffd｡｢｣､･ｦｧ",
    "ｨｩｪｫｬｭｮｯｰｱｲｳｴｵｶｷ",
    "ｸｹｺｻｼｽｾｿﾀﾁﾂﾃﾄﾅﾆﾇ",
    "ﾈﾉﾊﾋﾌﾍﾎﾏﾐﾑﾒﾓﾔﾕﾖﾗ",
    "ﾘﾙﾚﾛﾜﾝﾞﾟ\ufffd\ufffd\ufffd\ufffd\ufffd\ufffd\ufffd\ufffd",
    "\ufffd\ufffd\ufffd\ufffd\ufffd\ufffd\ufffd\ufffd",
    "\ufffd\ufffd\ufffd\ufffd\ufffd\ufffd\ufffd\ufffd",
    "\ufffd\ufffd\ufffd\ufffd\ufffd\ufffd\ufffd\ufffd"] with
    special := [('¥', 92), ('‾', 126)] },
  { low ["gb_1988-80", "iso646-cn", "iso-ir-57", "cn", "csiso57gb1988"] with
    special := [('¥', 36), ('‾', 126)] }]

end TagScript.Xml.CodePage
