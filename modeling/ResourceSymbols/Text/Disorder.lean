import ResourceSymbols.Number.Binary64
import ResourceSymbols.Text.Disorder.Words

/-!
# Disorder of a text

Octets that are read in the wrong way give a text that nobody writes.  Its disorder
is the sum of the degrees in which it shows that, in thousandths.
-/

namespace ResourceSymbols.Text

/-- The ideographs that are most often written, in Chinese, Japanese and Korean. -/
def commonIdeographs : List String := [
  "的一是在不了有和人这中大为上个国我以要他时来用们生到作地于出就分对成会可主发年动同工也能下过",
  "子说产种面而方后多定行学法所民得经十三之进着等部度家电力里如水化高自二理起小物现实加量都两体",
  "制机当使点从业本去把性好应开它合还因由其些然前外天政四日那社义事平形相全表间样与关各重新线内",
  "数正心反你明看原又么利比或但质气第向道命此变条只没结解问意建月公无系军很情者最立代想已通并提",
  "直题党程展五果料象员革位入常文总次品式活设及管特件长求老头基资边流路级少图山统接知较将组见计",
  "别她手角期根论运农指几九区强放决西被干做必战先回则任取据处队南给色光门即保治北造百规热领七海",
  "口东导器压志世金增争济阶油思术极交受联什认六共权收证改清己美再采转更单风切打白教速花带安场身",
  "车例真务具万每目至达走积示议声报斗完类八离华名确才科张信马节话米整空元况今集温传土许步群广石",
  "记需段研界拉林律叫且究观越织装影算低持音众书布复容儿须际商非验连断深难近矿千周委素技备半办青",
  "省列习响约支般史感劳便团往酸历市克何除消构府称太准精值号率族维划选标写存候毛亲快效斯院查江型",
  "眼王按格养易置派层片始却专状育厂京识适属圆包火住调满县局照参红细引听该铁价严龙飞",
  "日一国年大十二本中長出三時行見月分後前生五間上東四今金九入学高円子外八六下来気小七山話女北午",
  "百書先名川千水半男西電校語土木聞食車何南万毎白天母火右読友左休父雨",
  "一二三四五六七八九十百千萬上下左右中人女子大小山川日月火水木金土父母天地國名年時文校學生"]

/-- What a text has shown so far. -/
structure Disorder where
  signs : Disorder.Signs := {}
  accents : Disorder.Accents := {}
  hidden : Disorder.Hidden := {}
  doubles : Disorder.Doubles := {}
  leaps : Disorder.Leaps := {}
  words : Disorder.Words := {}
  ideographs : Disorder.Ideographs := {}
  cases : Disorder.Cases := {}
  isolated : Disorder.Isolated := {}

namespace Disorder

/-- Whether `c` is among the ideographs that are most often written. -/
def isCommonIdeograph (c : Char) : Bool := commonIdeographs.any (·.contains c)

/-- Counts a character. -/
def read (d : Disorder) (c : Char) : Disorder :=
  let t := Traits.of c
  { signs := d.signs.read t
    accents := d.accents.read t
    hidden := d.hidden.read t
    doubles := d.doubles.read t
    leaps := d.leaps.read t
    words := d.words.read t
    ideographs := d.ideographs.read isCommonIdeograph t
    cases := d.cases.read t
    isolated := d.isolated.read t }

/-- The sum of the degrees. -/
def degree (d : Disorder) : Float :=
  d.signs.degree + d.accents.degree + d.hidden.degree + d.doubles.degree + d.leaps.degree +
    d.words.degree + d.ideographs.degree + d.cases.degree + d.isolated.degree

/-- Reads on from the character at a position.  At each multiple of the interval the
reading ends if the degree has come to `limit`. -/
def readFrom (limit : Float) (interval position : Nat) (d : Disorder) : List Char → Disorder
  | [] => d
  | c :: rest =>
    let d := d.read c
    if 0 < position ∧ position % interval = 0 ∧ limit ≤ d.degree then d
    else readFrom limit interval (position + 1) d rest

/-- The thousandths nearest to a number that is not negative. -/
def thousandths (x : Float) : Nat := Number.Binary64.scaled 1000 ⟨x.toBits⟩

/-- From how many thousandths on a text counts as misread. -/
def limit : Nat := 200

/-- The disorder of a text, with the end of its line, in thousandths. -/
def ofText (text : List Char) : Nat :=
  let length := text.length + 1
  let interval := if length < 512 then 32 else if length ≤ 1024 then 64 else 128
  thousandths (readFrom (Float.ofScientific limit true 3) interval 0 {} (text ++ ['\n'])).degree

end Disorder

end ResourceSymbols.Text
