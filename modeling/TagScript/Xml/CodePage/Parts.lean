/-!
# Letters with marks

Letters that some pages of one byte do not have as such, and the rows of a letter and marks that
stand for them.
-/

namespace TagScript.Xml.CodePage

/-- Letters and the letters they become under a mark. -/
def marked (mark : Char) (letters bases : String) : List (Char × List Char) :=
  (letters.toList.zip bases.toList).map fun (letter, base) => (letter, [base, mark])

/-- Letters with a mark of tone, each as a letter and the mark. -/
def vietnameseParts : List (Char × List Char) :=
  marked '\u0300'
    "ÀÈÌÒÙàèìòùǛǜǸǹẀẁẦầẰằỀềỒồỜờỪừỲỳ῭"
    "AEIOUaeiouÜüNnWwÂâĂăÊêÔôƠơƯưYy¨" ++
  marked '\u0301'
    "ÁÉÍÓÚÝáéíóúýĆćĹĺŃńŔŕŚśŹźǗǘǴǵǺǻǼǽǾǿ΅ḈḉḮḯḰ"
    "AEIOUYaeiouyCcLlNnRrSsZzÜüGgÅåÆæØø¨ÇçÏïK" ++
  marked '\u0301'
    "ḱḾḿṔṕẂẃẤấẮắẾếỐốỚớỨứ"
    "kMmPpWwÂâĂăÊêÔôƠơƯư" ++
  marked '\u0303'
    "ÃÑÕãñõĨĩŨũṌṍṸṹṼṽẪẫẴẵẼẽỄễỖỗỠỡỮữỸỹ"
    "ANOanoIiUuÓóÚúVvÂâĂăEeÊêÔôƠơƯưYy" ++
  marked '\u0309'
    "ẢảẨẩẲẳẺẻỂểỈỉỎỏỔổỞởỦủỬửỶỷ"
    "AaÂâĂăEeÊêIiOoÔôƠơUuƯưYy" ++
  marked '\u0323'
    "ḄḅḌḍḤḥḲḳḶḷṂṃṆṇṚṛṢṣṬṭṾṿẈẉẒẓẠạẬậẶặẸẹỆệỊịỌọ"
    "BbDdHhKkLlMmNnRrSsTtVvWwZzAaÂâĂăEeÊêIiOo" ++
  marked '\u0323'
    "ỘộỢợỤụỰựỴỵ"
    "ÔôƠơUuƯưYy"

/-- Hebrew letters with points, each as a letter and its points. -/
def hebrewParts : List (Char × List Char) := [
  ('\ufb1d', ['\u05d9', '\u05b4']),
  ('\ufb1f', ['\u05f2', '\u05b7']),
  ('\ufb2a', ['\u05e9', '\u05c1']),
  ('\ufb2b', ['\u05e9', '\u05c2']),
  ('\ufb2c', ['\u05e9', '\u05bc', '\u05c1']),
  ('\ufb2d', ['\u05e9', '\u05bc', '\u05c2']),
  ('\ufb2e', ['\u05d0', '\u05b7']),
  ('\ufb2f', ['\u05d0', '\u05b8']),
  ('\ufb30', ['\u05d0', '\u05bc']),
  ('\ufb31', ['\u05d1', '\u05bc']),
  ('\ufb32', ['\u05d2', '\u05bc']),
  ('\ufb33', ['\u05d3', '\u05bc']),
  ('\ufb34', ['\u05d4', '\u05bc']),
  ('\ufb35', ['\u05d5', '\u05bc']),
  ('\ufb36', ['\u05d6', '\u05bc']),
  ('\ufb38', ['\u05d8', '\u05bc']),
  ('\ufb39', ['\u05d9', '\u05bc']),
  ('\ufb3a', ['\u05da', '\u05bc']),
  ('\ufb3b', ['\u05db', '\u05bc']),
  ('\ufb3c', ['\u05dc', '\u05bc']),
  ('\ufb3e', ['\u05de', '\u05bc']),
  ('\ufb40', ['\u05e0', '\u05bc']),
  ('\ufb41', ['\u05e1', '\u05bc']),
  ('\ufb43', ['\u05e3', '\u05bc']),
  ('\ufb44', ['\u05e4', '\u05bc']),
  ('\ufb46', ['\u05e6', '\u05bc']),
  ('\ufb47', ['\u05e7', '\u05bc']),
  ('\ufb48', ['\u05e8', '\u05bc']),
  ('\ufb49', ['\u05e9', '\u05bc']),
  ('\ufb4a', ['\u05ea', '\u05bc']),
  ('\ufb4b', ['\u05d5', '\u05b9']),
  ('\ufb4c', ['\u05d1', '\u05bf']),
  ('\ufb4d', ['\u05db', '\u05bf']),
  ('\ufb4e', ['\u05e4', '\u05bf'])]

end TagScript.Xml.CodePage
