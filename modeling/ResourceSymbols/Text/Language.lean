import ResourceSymbols.Text.Accent
import ResourceSymbols.Text.Block
import ResourceSymbols.Text.Script

/-!
# Languages

Languages are told apart by their letters and by how often each of them is written.
-/

namespace ResourceSymbols.Text

/-- A language, or one of its ways of writing. -/
structure Language where
  name : String
  /-- Which of its ways of writing it is. -/
  writing : Nat
  /-- Its letters, those that are written most often first. -/
  lines : List String
deriving DecidableEq, Repr

namespace Language

/-- The letters, those that are written most often first. -/
def letters (l : Language) : List Char := l.lines.flatMap String.toList

/-- Whether all letters are Latin. -/
def isLatin (l : Language) : Bool := l.letters.all Text.isLatin

/-- Whether some letters carry accents. -/
def hasAccents (l : Language) : Bool := l.letters.any isAccented

/-- The names of the blocks in which the letters lie. -/
def blocks (l : Language) : List String :=
  ((l.letters.filterMap block?).map (·.name)).eraseDups

end Language

/-- The languages. -/
def languages : List Language := [
  ⟨"English", 0, ["eationsrhldcumfpgwybvkxjzq"]⟩,
  ⟨"English", 1, ["eationsrhldcmufpgwbyvkjxzq"]⟩,
  ⟨"German", 0, ["enirstadhulgocmbfkwzpvüäöj"]⟩,
  ⟨"French", 0, ["easnitrluodcpmévgfbhqàxèyj"]⟩,
  ⟨"Dutch", 0, ["enairtodslghvmukcpbwjzfyxë"]⟩,
  ⟨"Italian", 0, ["eiaonltrscdupmgvfbzhqèàkyò"]⟩,
  ⟨"Polish", 0, ["aioenrzwsctkydpmuljłgbhąęó"]⟩,
  ⟨"Spanish", 0, ["eaonsrildtcumpbgvfyóhqíjzá"]⟩,
  ⟨"Russian", 0, ["оаеинстрвлкмдпугяызбйьчхжц"]⟩,
  ⟨"Japanese", 0, [
    "人一大亅丁丨竹笑口日今二彳行十土丶寸寺時乙丿乂气気冂巾亠市目儿見八小凵県月彐門間木東山出本",
    "中刀分耳又取最言田心思刂前京尹事生厶云会未来白冫楽灬馬尸尺駅明耂者了阝都高卜占厂广店子申奄",
    "亻俺上方冖学衣艮食自"]⟩,
  ⟨"Japanese", 1, [
    "ーンス・ルトリイアラックドシレジタフロカテマィグバムプオコデニウメサビナブャエュチキズダパ",
    "ミェョハセベガモツネボソノァヴワポペピケゴギザホゲォヤヒユヨヘゼヌゥゾヶヂヲヅヵヱヰヮヽ゠",
    "ヾヷヿヸヹヺ"]⟩,
  ⟨"Japanese", 2, [
    "のにるたとはしいをでてがなれからさっりすあもこまうくよきんめおけそつだやえどわちみせじばへ",
    "びずろほげむべひょゆぶごゃねふぐぎぼゅづざぞぬぜぱぽぷぴぃぁぇぺゞぢぉぅゐゝゑ゛゜ゎゔ",
    "\u309aゟ\u3099ゕゖ"]⟩,
  ⟨"Portuguese", 0, ["aeosirdntmuclpgvbfhãqéçází"]⟩,
  ⟨"Swedish", 0, ["eanrtsildomkgvhfupäcböåyjx"]⟩,
  ⟨"Chinese", 0, [
    "的一是不了在人有我他这个们中来上大为和国地到以说时要就出会可也你对生能而子那得于着下自之年",
    "过发后作里用道行所然家种事成方多经么去法学如都同现当没动面起看定天分还进好小部其些主样理心",
    "她本前开但因只从想实"]⟩,
  ⟨"Ukrainian", 0, ["оаніирвтесклудмпзяьбгйчхцї"]⟩,
  ⟨"Norwegian", 0, ["erntasioldgkmvfpubhåyjøcæw"]⟩,
  ⟨"Finnish", 0, ["aintesloukämrvjhpydögcbfwz"]⟩,
  ⟨"Vietnamese", 0, ["nhticgaoumlràđsevpbyưdákộế"]⟩,
  ⟨"Czech", 0, ["oeantsilvrkdumpíchzáyjběéř"]⟩,
  ⟨"Hungarian", 0, ["eatlsnkriozáégmbyvdhupjöfc"]⟩,
  ⟨"Korean", 0, ["이다에의는로하을가고지서한은기으년대사시를리도인스일"]⟩,
  ⟨"Indonesian", 0, ["aneirtusdkmlgpbohyjcwfvzxq"]⟩,
  ⟨"Turkish", 0, ["aeinrlıkdtsmyuobüşvgzhcpçğ"]⟩,
  ⟨"Romanian", 0, ["eiarntulocsdpmăfvîgbșțzhâj"]⟩,
  ⟨"Farsi", 0, [
    "\u0627\u06cc\u0631\u062f\u0646\u0647\u0648\u0645\u062a\u0628\u0633\u0644\u06a9\u0634\u0632",
    "\u0641\u06af\u0639\u062e\u0642\u062c\u0622\u067e\u062d\u0637\u0635"]⟩,
  ⟨"Arabic", 0, [
    "\u0627\u0644\u064a\u0645\u0648\u0646\u0631\u062a\u0628\u0629\u0639\u062f\u0633\u0641\u0647",
    "\u0643\u0642\u0623\u062d\u062c\u0634\u0637\u0635\u0649\u062e\u0625"]⟩,
  ⟨"Danish", 0, ["erntaisdlogmkfvubhpåyøæcjw"]⟩,
  ⟨"Serbian", 0, ["аиоенрсуткјвдмплгзбaieonцш"]⟩,
  ⟨"Lithuanian", 0, ["iasoretnukmlpvdjgėbyųšžcąį"]⟩,
  ⟨"Slovene", 0, ["eaionrsltjvkdpmuzbghčcšžfy"]⟩,
  ⟨"Slovak", 0, ["oaenirvtslkdmpuchjbzáyýíčé"]⟩,
  ⟨"Hebrew", 0, [
    "\u05d9\u05d5\u05d4\u05dc\u05e8\u05d1\u05ea\u05de\u05d0\u05e9\u05e0\u05e2\u05dd\u05d3\u05e7",
    "\u05d7\u05e4\u05e1\u05db\u05d2\u05d8\u05e6\u05df\u05d6\u05da"]⟩,
  ⟨"Bulgarian", 0, ["аиоентрсвлкдпмзгяъубчцйжщх"]⟩,
  ⟨"Croatian", 0, ["aioenrjstuklvdmpgzbcčhšžćf"]⟩,
  ⟨"Hindi", 0, ["करसनतमहपयलवजदगबशटअएथभडचधषइ"]⟩,
  ⟨"Estonian", 0, ["aiestlunokrdmvgpjhäbõüfcöy"]⟩,
  ⟨"Thai", 0, ["านรอกเงมยลวดทสตะปบคหแจพชขใ"]⟩,
  ⟨"Greek", 0, ["ατοιενρσκηπςυμλίόάγέδήωχθύ"]⟩,
  ⟨"Tamil", 0, ["கதபடரமலனவறயளசநஇணஅஆழஙஎஉஒஸ"]⟩,
  ⟨"Kazakh", 0, ["аыентрлідсмқкобиуғжңзшйпгө"]⟩]

/-- The languages, each with the blocks of its letters. -/
def languageBlocks : List (Language × List String) := languages.map fun l => (l, l.blocks)

/-- The languages with letters in the block of the given name. -/
def languagesIn (block : String) : List Language :=
  languageBlocks.filterMap fun e => if e.2.contains block then some e.1 else none

end ResourceSymbols.Text
