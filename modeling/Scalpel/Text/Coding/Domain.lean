import Scalpel.Text.Coding.Basic
import Scalpel.Text.Normal

/-!
Text in letters, digits and hyphens. The characters of ASCII stand first; behind the last hyphen follow
the others, from the smallest to the largest, each as the number of places and numbers between it and
the one before. A number has digits in base 36, whose thresholds adapt to the numbers before.
-/

set_option autoImplicit false

namespace Scalpel.Coding.Punycode

open Scalpel

variable [Halves]

def threshold (place bias : Nat) : Nat :=
  min 26 (max 1 (36 * (place + 1) - bias))

/-- The part of a difference that exceeds the digits' range, and how many digits that takes. Fuel: each
step makes the difference smaller. -/
def reduce : Nat → Nat → Nat → Nat × Nat
  | 0, delta, steps => (delta, steps)
  | fuel + 1, delta, steps =>
    if 455 < delta then reduce fuel (delta / 35) (steps + 36) else (delta, steps)

def adapt (delta : Nat) (isFirst : Bool) (count : Nat) : Nat :=
  let delta := if isFirst then delta / 700 else delta / 2
  let (delta, steps) := reduce delta (delta + delta / count) 0
  steps + 36 * delta / (delta + 38)

/-! ### Writing -/

def digit (value : Nat) : UInt8 :=
  (if value < 26 then 97 + value else 22 + value).toUInt8

/-- A number in digits. Fuel: each digit makes the number smaller. -/
def digits (bias : Nat) : Nat → Nat → Nat → Bytes
  | 0, _, _ => []
  | fuel + 1, place, n =>
    let limit := threshold place bias
    if n < limit then [digit n]
    else digit (limit + (n - limit) % (36 - limit)) ::
      digits bias fuel (place + 1) ((n - limit) / (36 - limit))

structure Progress where
  bytes : List Bytes := []
  delta : Nat := 0
  bias : Nat := 72
  isFirst : Bool := true
  count : Nat

def pass (sought : Nat) (p : Progress) (c : Char) : Progress :=
  let n := Half.number c
  if n < sought then { p with delta := p.delta + 1 }
  else if n = sought then
    { bytes := digits p.bias (p.delta + 1) 0 p.delta :: p.bytes,
      delta := 0,
      bias := adapt p.delta p.isFirst (p.count + 1),
      isFirst := false,
      count := p.count + 1 }
  else p

def passAll (text : List Char) : Nat → List Nat → Progress → Progress
  | _, [], p => p
  | before, n :: rest, p =>
    let p := text.foldl (pass n) { p with delta := p.delta + (n - before) * (p.count + 1) }
    passAll text (n + 1) rest { p with delta := p.delta + 1 }

def write (text : List Char) : Bytes :=
  let base := text.filterMap asciiByte?
  let others := ((text.filter fun c => 0x80 ≤ c.toNat).map Half.number).eraseDups
    |>.mergeSort (fun a b => decide (a ≤ b))
  let progress := passAll text 0x80 others { count := base.length }
  base ++ (if base.isEmpty then [] else [45]) ++ progress.bytes.reverse.flatten

/-! ### Reading -/

def value? (c : Char) : Option Nat :=
  if 'A' ≤ c && c ≤ 'Z' then some (c.toNat - 65)
  else if '0' ≤ c && c ≤ '9' then some (c.toNat - 22)
  else none

def number (bias : Nat) : Nat → Nat → Nat → List Char → Outcome (Nat × List Char)
  | _, _, _, [] => .error (.miscoded "incomplete punicode string")
  | place, weight, sum, c :: rest =>
    match value? c with
    | none => .error (.miscoded ("Invalid extended code point '" ++ c.toString ++ "'"))
    | some value =>
      let limit := threshold place bias
      let sum := sum + value * weight
      if value < limit then .ok (sum, rest)
      else number bias (place + 1) (weight * (36 - limit)) sum rest

/-- The characters that digits put between the others. The place is the one behind the last character
that was put. Fuel: each number takes at least one digit. -/
def insertAll : Nat → Nat → Nat → Nat → Bool → List Char → List Char → Outcome (List Char)
  | 0, _, _, _, _, _, text => .ok text
  | _, _, _, _, _, [], text => .ok text
  | fuel + 1, n, place, bias, isFirst, rest, text => do
    let (delta, rest) ← number bias 0 1 0 rest
    let through := place + delta
    let size := text.length + 1
    let n := n + through / size
    if 0x10FFFF < n then
      .error (.miscoded ("Invalid character U+" ++ String.ofList (Text.hex 1 n)))
    else
      let place := through % size
      let c := if 0xD800 ≤ n && n < 0xE000 then Half.ofUnit n else Char.ofNat n
      let text := text.take place ++ c :: text.drop place
      insertAll fuel n (place + 1) (adapt delta isFirst text.length) false rest text

def read (bytes : Bytes) : Outcome (List Char) := do
  let behind := (bytes.reverse.takeWhile (· ≠ 45)).length
  let hasHyphen := behind < bytes.length
  let base := if hasHyphen then bytes.take (bytes.length - behind - 1) else []
  let rest := bytes.drop (bytes.length - behind)
  let base ← readAscii base
  let rest ← readAscii rest
  insertAll (rest.length + 1) 0x80 0 72 true (rest.map Char.toUpper) base

end Scalpel.Coding.Punycode

/-! ### Characters of domain names

The characters of domain names: in which form they are compared, which are refused, and in which
direction they are written.
-/

namespace Scalpel.Coding.Domain

/-- Characters with the forms in which they are compared. Each line begins with a character and goes on
with its form. -/
def forms : String :=
  "Aa\nBb\nCc\nDd\nEe\nFf\nGg\nHh\nIi\nJj\nKk\nLl\nMm\nNn\nOo\nPp\nQq\nRr\nSs\nTt\nUu\nVv\n" ++
  "Ww\nXx\nYy\nZz\nµμ\nÀà\nÁá\nÂâ\nÃã\nÄä\nÅå\nÆæ\nÇç\nÈè\nÉé\nÊê\nËë\nÌì\nÍí\nÎî\nÏï\nÐð\n" ++
  "Ññ\nÒò\nÓó\nÔô\nÕõ\nÖö\nØø\nÙù\nÚú\nÛû\nÜü\nÝý\nÞþ\nßss\nĀā\nĂă\nĄą\nĆć\nĈĉ\nĊċ\nČč\nĎď\n" ++
  "Đđ\nĒē\nĔĕ\nĖė\nĘę\nĚě\nĜĝ\nĞğ\nĠġ\nĢģ\nĤĥ\nĦħ\nĨĩ\nĪī\nĬĭ\nĮį\nİi\u0307\nĲĳ\nĴĵ\nĶķ\nĹĺ\n" ++
  "Ļļ\nĽľ\nĿŀ\nŁł\nŃń\nŅņ\nŇň\nŉʼn\nŊŋ\nŌō\nŎŏ\nŐő\nŒœ\nŔŕ\nŖŗ\nŘř\nŚś\nŜŝ\nŞş\nŠš\nŢţ\nŤť\n" ++
  "Ŧŧ\nŨũ\nŪū\nŬŭ\nŮů\nŰű\nŲų\nŴŵ\nŶŷ\nŸÿ\nŹź\nŻż\nŽž\nſs\nƁɓ\nƂƃ\nƄƅ\nƆɔ\nƇƈ\nƉɖ\nƊɗ\nƋƌ\n" ++
  "Ǝǝ\nƏə\nƐɛ\nƑƒ\nƓɠ\nƔɣ\nƖɩ\nƗɨ\nƘƙ\nƜɯ\nƝɲ\nƟɵ\nƠơ\nƢƣ\nƤƥ\nƦʀ\nƧƨ\nƩʃ\nƬƭ\nƮʈ\nƯư\nƱʊ\n" ++
  "Ʋʋ\nƳƴ\nƵƶ\nƷʒ\nƸƹ\nƼƽ\nǄǆ\nǅǆ\nǇǉ\nǈǉ\nǊǌ\nǋǌ\nǍǎ\nǏǐ\nǑǒ\nǓǔ\nǕǖ\nǗǘ\nǙǚ\nǛǜ\nǞǟ\nǠǡ\n" ++
  "Ǣǣ\nǤǥ\nǦǧ\nǨǩ\nǪǫ\nǬǭ\nǮǯ\nǰj\u030c\nǱǳ\nǲǳ\nǴǵ\nǶƕ\nǷƿ\nǸǹ\nǺǻ\nǼǽ\nǾǿ\nȀȁ\nȂȃ\nȄȅ\nȆȇ\n" ++
  "Ȉȉ\nȊȋ\nȌȍ\nȎȏ\nȐȑ\nȒȓ\nȔȕ\nȖȗ\nȘș\nȚț\nȜȝ\nȞȟ\nȠƞ\nȢȣ\nȤȥ\nȦȧ\nȨȩ\nȪȫ\nȬȭ\nȮȯ\nȰȱ\nȲȳ\n" ++
  "Ⱥⱥ\nȻȼ\nȽƚ\nȾⱦ\nɁɂ\nɃƀ\nɄʉ\nɅʌ\nɆɇ\nɈɉ\nɊɋ\nɌɍ\nɎɏ\n\u0345ι\nͰͱ\nͲͳ\nͶͷ\nͺ\x20ι\nͿϳ\nΆά\n" ++
  "Έέ\nΉή\nΊί\nΌό\nΎύ\nΏώ\nΐι\u0308\u0301\nΑα\nΒβ\nΓγ\nΔδ\nΕε\nΖζ\nΗη\nΘθ\nΙι\nΚκ\nΛλ\nΜμ\n" ++
  "Νν\nΞξ\nΟο\nΠπ\nΡρ\nΣσ\nΤτ\nΥυ\nΦφ\nΧχ\nΨψ\nΩω\nΪϊ\nΫϋ\nΰυ\u0308\u0301\nςσ\nϏϗ\nϐβ\nϑθ\n" ++
  "ϒυ\nϓύ\nϔϋ\nϕφ\nϖπ\nϘϙ\nϚϛ\nϜϝ\nϞϟ\nϠϡ\nϢϣ\nϤϥ\nϦϧ\nϨϩ\nϪϫ\nϬϭ\nϮϯ\nϰκ\nϱρ\nϲσ\nϴθ\nϵε\n" ++
  "Ϸϸ\nϹσ\nϺϻ\nϽͻ\nϾͼ\nϿͽ\nЀѐ\nЁё\nЂђ\nЃѓ\nЄє\nЅѕ\nІі\nЇї\nЈј\nЉљ\nЊњ\nЋћ\nЌќ\nЍѝ\nЎў\nЏџ\n" ++
  "Аа\nБб\nВв\nГг\nДд\nЕе\nЖж\nЗз\nИи\nЙй\nКк\nЛл\nМм\nНн\nОо\nПп\nРр\nСс\nТт\nУу\nФф\nХх\n" ++
  "Цц\nЧч\nШш\nЩщ\nЪъ\nЫы\nЬь\nЭэ\nЮю\nЯя\nѠѡ\nѢѣ\nѤѥ\nѦѧ\nѨѩ\nѪѫ\nѬѭ\nѮѯ\nѰѱ\nѲѳ\nѴѵ\nѶѷ\n" ++
  "Ѹѹ\nѺѻ\nѼѽ\nѾѿ\nҀҁ\nҊҋ\nҌҍ\nҎҏ\nҐґ\nҒғ\nҔҕ\nҖҗ\nҘҙ\nҚқ\nҜҝ\nҞҟ\nҠҡ\nҢң\nҤҥ\nҦҧ\nҨҩ\nҪҫ\n" ++
  "Ҭҭ\nҮү\nҰұ\nҲҳ\nҴҵ\nҶҷ\nҸҹ\nҺһ\nҼҽ\nҾҿ\nӀӏ\nӁӂ\nӃӄ\nӅӆ\nӇӈ\nӉӊ\nӋӌ\nӍӎ\nӐӑ\nӒӓ\nӔӕ\nӖӗ\n" ++
  "Әә\nӚӛ\nӜӝ\nӞӟ\nӠӡ\nӢӣ\nӤӥ\nӦӧ\nӨө\nӪӫ\nӬӭ\nӮӯ\nӰӱ\nӲӳ\nӴӵ\nӶӷ\nӸӹ\nӺӻ\nӼӽ\nӾӿ\nԀԁ\nԂԃ\n" ++
  "Ԅԅ\nԆԇ\nԈԉ\nԊԋ\nԌԍ\nԎԏ\nԐԑ\nԒԓ\nԔԕ\nԖԗ\nԘԙ\nԚԛ\nԜԝ\nԞԟ\nԠԡ\nԢԣ\nԤԥ\nԦԧ\nԨԩ\nԪԫ\nԬԭ\nԮԯ\n" ++
  "Աա\nԲբ\nԳգ\nԴդ\nԵե\nԶզ\nԷէ\nԸը\nԹթ\nԺժ\nԻի\nԼլ\nԽխ\nԾծ\nԿկ\nՀհ\nՁձ\nՂղ\nՃճ\nՄմ\nՅյ\nՆն\n" ++
  "Շշ\nՈո\nՉչ\nՊպ\nՋջ\nՌռ\nՍս\nՎվ\nՏտ\nՐր\nՑց\nՒւ\nՓփ\nՔք\nՕօ\nՖֆ\nևեւ\nႠⴀ\nႡⴁ\nႢⴂ\nႣⴃ\nႤⴄ\n" ++
  "Ⴅⴅ\nႦⴆ\nႧⴇ\nႨⴈ\nႩⴉ\nႪⴊ\nႫⴋ\nႬⴌ\nႭⴍ\nႮⴎ\nႯⴏ\nႰⴐ\nႱⴑ\nႲⴒ\nႳⴓ\nႴⴔ\nႵⴕ\nႶⴖ\nႷⴗ\nႸⴘ\nႹⴙ\nႺⴚ\n" ++
  "Ⴛⴛ\nႼⴜ\nႽⴝ\nႾⴞ\nႿⴟ\nჀⴠ\nჁⴡ\nჂⴢ\nჃⴣ\nჄⴤ\nჅⴥ\nჇⴧ\nჍⴭ\nᎠꭰ\nᎡꭱ\nᎢꭲ\nᎣꭳ\nᎤꭴ\nᎥꭵ\nᎦꭶ\nᎧꭷ\nᎨꭸ\n" ++
  "Ꭹꭹ\nᎪꭺ\nᎫꭻ\nᎬꭼ\nᎭꭽ\nᎮꭾ\nᎯꭿ\nᎰꮀ\nᎱꮁ\nᎲꮂ\nᎳꮃ\nᎴꮄ\nᎵꮅ\nᎶꮆ\nᎷꮇ\nᎸꮈ\nᎹꮉ\nᎺꮊ\nᎻꮋ\nᎼꮌ\nᎽꮍ\nᎾꮎ\n" ++
  "Ꮏꮏ\nᏀꮐ\nᏁꮑ\nᏂꮒ\nᏃꮓ\nᏄꮔ\nᏅꮕ\nᏆꮖ\nᏇꮗ\nᏈꮘ\nᏉꮙ\nᏊꮚ\nᏋꮛ\nᏌꮜ\nᏍꮝ\nᏎꮞ\nᏏꮟ\nᏐꮠ\nᏑꮡ\nᏒꮢ\nᏓꮣ\nᏔꮤ\n" ++
  "Ꮥꮥ\nᏖꮦ\nᏗꮧ\nᏘꮨ\nᏙꮩ\nᏚꮪ\nᏛꮫ\nᏜꮬ\nᏝꮭ\nᏞꮮ\nᏟꮯ\nᏠꮰ\nᏡꮱ\nᏢꮲ\nᏣꮳ\nᏤꮴ\nᏥꮵ\nᏦꮶ\nᏧꮷ\nᏨꮸ\nᏩꮹ\nᏪꮺ\n" ++
  "Ꮻꮻ\nᏬꮼ\nᏭꮽ\nᏮꮾ\nᏯꮿ\nᏰᏸ\nᏱᏹ\nᏲᏺ\nᏳᏻ\nᏴᏼ\nᏵᏽ\nᲐა\nᲑბ\nᲒგ\nᲓდ\nᲔე\nᲕვ\nᲖზ\nᲗთ\nᲘი\nᲙკ\nᲚლ\n" ++
  "Მმ\nᲜნ\nᲝო\nᲞპ\nᲟჟ\nᲠრ\nᲡს\nᲢტ\nᲣუ\nᲤფ\nᲥქ\nᲦღ\nᲧყ\nᲨშ\nᲩჩ\nᲪც\nᲫძ\nᲬწ\nᲭჭ\nᲮხ\nᲯჯ\nᲰჰ\n" ++
  "Ჱჱ\nᲲჲ\nᲳჳ\nᲴჴ\nᲵჵ\nᲶჶ\nᲷჷ\nᲸჸ\nᲹჹ\nᲺჺ\nᲽჽ\nᲾჾ\nᲿჿ\nḀḁ\nḂḃ\nḄḅ\nḆḇ\nḈḉ\nḊḋ\nḌḍ\nḎḏ\nḐḑ\n" ++
  "Ḓḓ\nḔḕ\nḖḗ\nḘḙ\nḚḛ\nḜḝ\nḞḟ\nḠḡ\nḢḣ\nḤḥ\nḦḧ\nḨḩ\nḪḫ\nḬḭ\nḮḯ\nḰḱ\nḲḳ\nḴḵ\nḶḷ\nḸḹ\nḺḻ\nḼḽ\n" ++
  "Ḿḿ\nṀṁ\nṂṃ\nṄṅ\nṆṇ\nṈṉ\nṊṋ\nṌṍ\nṎṏ\nṐṑ\nṒṓ\nṔṕ\nṖṗ\nṘṙ\nṚṛ\nṜṝ\nṞṟ\nṠṡ\nṢṣ\nṤṥ\nṦṧ\nṨṩ\n" ++
  "Ṫṫ\nṬṭ\nṮṯ\nṰṱ\nṲṳ\nṴṵ\nṶṷ\nṸṹ\nṺṻ\nṼṽ\nṾṿ\nẀẁ\nẂẃ\nẄẅ\nẆẇ\nẈẉ\nẊẋ\nẌẍ\nẎẏ\nẐẑ\nẒẓ\nẔẕ\n" ++
  "ẖh\u0331\nẗt\u0308\nẘw\u030a\nẙy\u030a\nẚaʾ\nẛṡ\nẞss\nẠạ\nẢả\nẤấ\nẦầ\nẨẩ\nẪẫ\nẬậ\nẮắ\nẰằ\n" ++
  "Ẳẳ\nẴẵ\nẶặ\nẸẹ\nẺẻ\nẼẽ\nẾế\nỀề\nỂể\nỄễ\nỆệ\nỈỉ\nỊị\nỌọ\nỎỏ\nỐố\nỒồ\nỔổ\nỖỗ\nỘộ\nỚớ\nỜờ\n" ++
  "Ởở\nỠỡ\nỢợ\nỤụ\nỦủ\nỨứ\nỪừ\nỬử\nỮữ\nỰự\nỲỳ\nỴỵ\nỶỷ\nỸỹ\nỺỻ\nỼỽ\nỾỿ\nἈἀ\nἉἁ\nἊἂ\nἋἃ\nἌἄ\n" ++
  "Ἅἅ\nἎἆ\nἏἇ\nἘἐ\nἙἑ\nἚἒ\nἛἓ\nἜἔ\nἝἕ\nἨἠ\nἩἡ\nἪἢ\nἫἣ\nἬἤ\nἭἥ\nἮἦ\nἯἧ\nἸἰ\nἹἱ\nἺἲ\nἻἳ\nἼἴ\n" ++
  "Ἵἵ\nἾἶ\nἿἷ\nὈὀ\nὉὁ\nὊὂ\nὋὃ\nὌὄ\nὍὅ\nὐυ\u0313\nὒυ\u0313\u0300\nὔυ\u0313\u0301\n" ++
  "ὖυ\u0313\u0342\nὙὑ\nὛὓ\nὝὕ\nὟὗ\nὨὠ\nὩὡ\nὪὢ\nὫὣ\nὬὤ\nὭὥ\nὮὦ\nὯὧ\nᾀἀι\nᾁἁι\nᾂἂι\nᾃἃι\nᾄἄι\n" ++
  "ᾅἅι\nᾆἆι\nᾇἇι\nᾈἀι\nᾉἁι\nᾊἂι\nᾋἃι\nᾌἄι\nᾍἅι\nᾎἆι\nᾏἇι\nᾐἠι\nᾑἡι\nᾒἢι\nᾓἣι\nᾔἤι\nᾕἥι\nᾖἦι\n" ++
  "ᾗἧι\nᾘἠι\nᾙἡι\nᾚἢι\nᾛἣι\nᾜἤι\nᾝἥι\nᾞἦι\nᾟἧι\nᾠὠι\nᾡὡι\nᾢὢι\nᾣὣι\nᾤὤι\nᾥὥι\nᾦὦι\nᾧὧι\nᾨὠι\n" ++
  "ᾩὡι\nᾪὢι\nᾫὣι\nᾬὤι\nᾭὥι\nᾮὦι\nᾯὧι\nᾲὰι\nᾳαι\nᾴάι\nᾶα\u0342\nᾷα\u0342ι\nᾸᾰ\nᾹᾱ\nᾺὰ\nΆά\n" ++
  "ᾼαι\nιι\nῂὴι\nῃηι\nῄήι\nῆη\u0342\nῇη\u0342ι\nῈὲ\nΈέ\nῊὴ\nΉή\nῌηι\nῒι\u0308\u0300\n" ++
  "ΐι\u0308\u0301\nῖι\u0342\nῗι\u0308\u0342\nῘῐ\nῙῑ\nῚὶ\nΊί\nῢυ\u0308\u0300\nΰυ\u0308\u0301\n" ++
  "ῤρ\u0313\nῦυ\u0342\nῧυ\u0308\u0342\nῨῠ\nῩῡ\nῪὺ\nΎύ\nῬῥ\nῲὼι\nῳωι\nῴώι\nῶω\u0342\n" ++
  "ῷω\u0342ι\nῸὸ\nΌό\nῺὼ\nΏώ\nῼωι\n₨rs\nℂc\n℃°c\nℇɛ\n℉°f\nℋh\nℌh\nℍh\nℐi\nℑi\nℒl\nℕn\n№no\n" ++
  "ℙp\nℚq\nℛr\nℜr\nℝr\n℠sm\n℡tel\n™tm\nℤz\nΩω\nℨz\nKk\nÅå\nℬb\nℭc\nℰe\nℱf\nℲⅎ\nℳm\nℾγ\nℿπ\n" ++
  "ⅅd\nⅠⅰ\nⅡⅱ\nⅢⅲ\nⅣⅳ\nⅤⅴ\nⅥⅵ\nⅦⅶ\nⅧⅷ\nⅨⅸ\nⅩⅹ\nⅪⅺ\nⅫⅻ\nⅬⅼ\nⅭⅽ\nⅮⅾ\nⅯⅿ\nↃↄ\nⒶⓐ\nⒷⓑ\nⒸⓒ\nⒹⓓ\n" ++
  "Ⓔⓔ\nⒻⓕ\nⒼⓖ\nⒽⓗ\nⒾⓘ\nⒿⓙ\nⓀⓚ\nⓁⓛ\nⓂⓜ\nⓃⓝ\nⓄⓞ\nⓅⓟ\nⓆⓠ\nⓇⓡ\nⓈⓢ\nⓉⓣ\nⓊⓤ\nⓋⓥ\nⓌⓦ\nⓍⓧ\nⓎⓨ\nⓏⓩ\n" ++
  "Ⰰⰰ\nⰁⰱ\nⰂⰲ\nⰃⰳ\nⰄⰴ\nⰅⰵ\nⰆⰶ\nⰇⰷ\nⰈⰸ\nⰉⰹ\nⰊⰺ\nⰋⰻ\nⰌⰼ\nⰍⰽ\nⰎⰾ\nⰏⰿ\nⰐⱀ\nⰑⱁ\nⰒⱂ\nⰓⱃ\nⰔⱄ\nⰕⱅ\n" ++
  "Ⱆⱆ\nⰗⱇ\nⰘⱈ\nⰙⱉ\nⰚⱊ\nⰛⱋ\nⰜⱌ\nⰝⱍ\nⰞⱎ\nⰟⱏ\nⰠⱐ\nⰡⱑ\nⰢⱒ\nⰣⱓ\nⰤⱔ\nⰥⱕ\nⰦⱖ\nⰧⱗ\nⰨⱘ\nⰩⱙ\nⰪⱚ\nⰫⱛ\n" ++
  "Ⱜⱜ\nⰭⱝ\nⰮⱞ\nⰯⱟ\nⱠⱡ\nⱢɫ\nⱣᵽ\nⱤɽ\nⱧⱨ\nⱩⱪ\nⱫⱬ\nⱭɑ\nⱮɱ\nⱯɐ\nⱰɒ\nⱲⱳ\nⱵⱶ\nⱾȿ\nⱿɀ\nⲀⲁ\nⲂⲃ\nⲄⲅ\n" ++
  "Ⲇⲇ\nⲈⲉ\nⲊⲋ\nⲌⲍ\nⲎⲏ\nⲐⲑ\nⲒⲓ\nⲔⲕ\nⲖⲗ\nⲘⲙ\nⲚⲛ\nⲜⲝ\nⲞⲟ\nⲠⲡ\nⲢⲣ\nⲤⲥ\nⲦⲧ\nⲨⲩ\nⲪⲫ\nⲬⲭ\nⲮⲯ\nⲰⲱ\n" ++
  "Ⲳⲳ\nⲴⲵ\nⲶⲷ\nⲸⲹ\nⲺⲻ\nⲼⲽ\nⲾⲿ\nⳀⳁ\nⳂⳃ\nⳄⳅ\nⳆⳇ\nⳈⳉ\nⳊⳋ\nⳌⳍ\nⳎⳏ\nⳐⳑ\nⳒⳓ\nⳔⳕ\nⳖⳗ\nⳘⳙ\nⳚⳛ\nⳜⳝ\n" ++
  "Ⳟⳟ\nⳠⳡ\nⳢⳣ\nⳫⳬ\nⳭⳮ\nⳲⳳ\n㍱hpa\n㍳au\n㍵ov\n㎀pa\n㎁na\n㎂μa\n㎃ma\n㎄ka\n㎅kb\n㎆mb\n" ++
  "㎇gb\n㎊pf\n㎋nf\n㎌μf\n㎐hz\n㎑khz\n㎒mhz\n㎓ghz\n㎔thz\n㎩pa\n㎪kpa\n㎫mpa\n㎬gpa\n" ++
  "㎴pv\n㎵nv\n㎶μv\n㎷mv\n㎸kv\n㎹mv\n㎺pw\n㎻nw\n㎼μw\n㎽mw\n㎾kw\n㎿mw\n㏀kω\n㏁mω\n㏃bq\n" ++
  "㏆c∕kg\n㏇co.\n㏈db\n㏉gy\n㏋hp\n㏍kk\n㏎km\n㏗ph\n㏙ppm\n㏚pr\n㏜sv\n㏝wb\nꙀꙁ\nꙂꙃ\nꙄꙅ\n" ++
  "Ꙇꙇ\nꙈꙉ\nꙊꙋ\nꙌꙍ\nꙎꙏ\nꙐꙑ\nꙒꙓ\nꙔꙕ\nꙖꙗ\nꙘꙙ\nꙚꙛ\nꙜꙝ\nꙞꙟ\nꙠꙡ\nꙢꙣ\nꙤꙥ\nꙦꙧ\nꙨꙩ\nꙪꙫ\nꙬꙭ\nꚀꚁ\nꚂꚃ\n" ++
  "Ꚅꚅ\nꚆꚇ\nꚈꚉ\nꚊꚋ\nꚌꚍ\nꚎꚏ\nꚐꚑ\nꚒꚓ\nꚔꚕ\nꚖꚗ\nꚘꚙ\nꚚꚛ\nꜢꜣ\nꜤꜥ\nꜦꜧ\nꜨꜩ\nꜪꜫ\nꜬꜭ\nꜮꜯ\nꜲꜳ\nꜴꜵ\nꜶꜷ\n" ++
  "Ꜹꜹ\nꜺꜻ\nꜼꜽ\nꜾꜿ\nꝀꝁ\nꝂꝃ\nꝄꝅ\nꝆꝇ\nꝈꝉ\nꝊꝋ\nꝌꝍ\nꝎꝏ\nꝐꝑ\nꝒꝓ\nꝔꝕ\nꝖꝗ\nꝘꝙ\nꝚꝛ\nꝜꝝ\nꝞꝟ\nꝠꝡ\nꝢꝣ\n" ++
  "Ꝥꝥ\nꝦꝧ\nꝨꝩ\nꝪꝫ\nꝬꝭ\nꝮꝯ\nꝹꝺ\nꝻꝼ\nꝽᵹ\nꝾꝿ\nꞀꞁ\nꞂꞃ\nꞄꞅ\nꞆꞇ\nꞋꞌ\nꞍɥ\nꞐꞑ\nꞒꞓ\nꞖꞗ\nꞘꞙ\nꞚꞛ\nꞜꞝ\n" ++
  "Ꞟꞟ\nꞠꞡ\nꞢꞣ\nꞤꞥ\nꞦꞧ\nꞨꞩ\nꞪɦ\nꞫɜ\nꞬɡ\nꞭɬ\nꞮɪ\nꞰʞ\nꞱʇ\nꞲʝ\nꞳꭓ\nꞴꞵ\nꞶꞷ\nꞸꞹ\nꞺꞻ\nꞼꞽ\nꞾꞿ\nꟀꟁ\n" ++
  "Ꟃꟃ\nꟄꞔ\nꟅʂ\nꟆᶎ\nꟇꟈ\nꟉꟊ\nꟐꟑ\nꟖꟗ\nꟘꟙ\nꟵꟶ\nﬀff\nﬁfi\nﬂfl\nﬃffi\nﬄffl\nﬅst\nﬆst\nﬓմն\nﬔմե\n" ++
  "ﬕմի\nﬖվն\nﬗմխ\nＡａ\nＢｂ\nＣｃ\nＤｄ\nＥｅ\nＦｆ\nＧｇ\nＨｈ\nＩｉ\nＪｊ\nＫｋ\nＬｌ\n" ++
  "Ｍｍ\nＮｎ\nＯｏ\nＰｐ\nＱｑ\nＲｒ\nＳｓ\nＴｔ\nＵｕ\nＶｖ\nＷｗ\nＸｘ\nＹｙ\nＺｚ\n𐐀𐐨\n" ++
  "𐐁𐐩\n𐐂𐐪\n𐐃𐐫\n𐐄𐐬\n𐐅𐐭\n𐐆𐐮\n𐐇𐐯\n𐐈𐐰\n𐐉𐐱\n𐐊𐐲\n𐐋𐐳\n𐐌𐐴\n𐐍𐐵\n𐐎𐐶\n𐐏𐐷\n𐐐𐐸\n𐐑𐐹\n𐐒𐐺\n𐐓𐐻\n𐐔𐐼\n𐐕𐐽\n𐐖𐐾\n" ++
  "𐐗𐐿\n𐐘𐑀\n𐐙𐑁\n𐐚𐑂\n𐐛𐑃\n𐐜𐑄\n𐐝𐑅\n𐐞𐑆\n𐐟𐑇\n𐐠𐑈\n𐐡𐑉\n𐐢𐑊\n𐐣𐑋\n𐐤𐑌\n𐐥𐑍\n𐐦𐑎\n𐐧𐑏\n𐒰𐓘\n𐒱𐓙\n𐒲𐓚\n𐒳𐓛\n𐒴𐓜\n" ++
  "𐒵𐓝\n𐒶𐓞\n𐒷𐓟\n𐒸𐓠\n𐒹𐓡\n𐒺𐓢\n𐒻𐓣\n𐒼𐓤\n𐒽𐓥\n𐒾𐓦\n𐒿𐓧\n𐓀𐓨\n𐓁𐓩\n𐓂𐓪\n𐓃𐓫\n𐓄𐓬\n𐓅𐓭\n𐓆𐓮\n𐓇𐓯\n𐓈𐓰\n𐓉𐓱\n𐓊𐓲\n" ++
  "𐓋𐓳\n𐓌𐓴\n𐓍𐓵\n𐓎𐓶\n𐓏𐓷\n𐓐𐓸\n𐓑𐓹\n𐓒𐓺\n𐓓𐓻\n𐕰𐖗\n𐕱𐖘\n𐕲𐖙\n𐕳𐖚\n𐕴𐖛\n𐕵𐖜\n𐕶𐖝\n𐕷𐖞\n𐕸𐖟\n𐕹𐖠\n𐕺𐖡\n𐕼𐖣\n𐕽𐖤\n" ++
  "𐕾𐖥\n𐕿𐖦\n𐖀𐖧\n𐖁𐖨\n𐖂𐖩\n𐖃𐖪\n𐖄𐖫\n𐖅𐖬\n𐖆𐖭\n𐖇𐖮\n𐖈𐖯\n𐖉𐖰\n𐖊𐖱\n𐖌𐖳\n𐖍𐖴\n𐖎𐖵\n𐖏𐖶\n𐖐𐖷\n𐖑𐖸\n𐖒𐖹\n𐖔𐖻\n𐖕𐖼\n" ++
  "𐲀𐳀\n𐲁𐳁\n𐲂𐳂\n𐲃𐳃\n𐲄𐳄\n𐲅𐳅\n𐲆𐳆\n𐲇𐳇\n𐲈𐳈\n𐲉𐳉\n𐲊𐳊\n𐲋𐳋\n𐲌𐳌\n𐲍𐳍\n𐲎𐳎\n𐲏𐳏\n𐲐𐳐\n𐲑𐳑\n𐲒𐳒\n𐲓𐳓\n𐲔𐳔\n𐲕𐳕\n" ++
  "𐲖𐳖\n𐲗𐳗\n𐲘𐳘\n𐲙𐳙\n𐲚𐳚\n𐲛𐳛\n𐲜𐳜\n𐲝𐳝\n𐲞𐳞\n𐲟𐳟\n𐲠𐳠\n𐲡𐳡\n𐲢𐳢\n𐲣𐳣\n𐲤𐳤\n𐲥𐳥\n𐲦𐳦\n𐲧𐳧\n𐲨𐳨\n𐲩𐳩\n𐲪𐳪\n𐲫𐳫\n" ++
  "𐲬𐳬\n𐲭𐳭\n𐲮𐳮\n𐲯𐳯\n𐲰𐳰\n𐲱𐳱\n𐲲𐳲\n𑢠𑣀\n𑢡𑣁\n𑢢𑣂\n𑢣𑣃\n𑢤𑣄\n𑢥𑣅\n𑢦𑣆\n𑢧𑣇\n𑢨𑣈\n𑢩𑣉\n𑢪𑣊\n𑢫𑣋\n𑢬𑣌\n𑢭𑣍\n𑢮𑣎\n" ++
  "𑢯𑣏\n𑢰𑣐\n𑢱𑣑\n𑢲𑣒\n𑢳𑣓\n𑢴𑣔\n𑢵𑣕\n𑢶𑣖\n𑢷𑣗\n𑢸𑣘\n𑢹𑣙\n𑢺𑣚\n𑢻𑣛\n𑢼𑣜\n𑢽𑣝\n𑢾𑣞\n𑢿𑣟\n𖹀𖹠\n𖹁𖹡\n𖹂𖹢\n𖹃𖹣\n𖹄𖹤\n" ++
  "𖹅𖹥\n𖹆𖹦\n𖹇𖹧\n𖹈𖹨\n𖹉𖹩\n𖹊𖹪\n𖹋𖹫\n𖹌𖹬\n𖹍𖹭\n𖹎𖹮\n𖹏𖹯\n𖹐𖹰\n𖹑𖹱\n𖹒𖹲\n𖹓𖹳\n𖹔𖹴\n𖹕𖹵\n𖹖𖹶\n𖹗𖹷\n𖹘𖹸\n𖹙𖹹\n𖹚𖹺\n" ++
  "𖹛𖹻\n𖹜𖹼\n𖹝𖹽\n𖹞𖹾\n𖹟𖹿\n𝐀a\n𝐁b\n𝐂c\n𝐃d\n𝐄e\n𝐅f\n𝐆g\n𝐇h\n𝐈i\n𝐉j\n𝐊k\n𝐋l\n𝐌m\n𝐍n\n𝐎o\n𝐏p\n𝐐q\n" ++
  "𝐑r\n𝐒s\n𝐓t\n𝐔u\n𝐕v\n𝐖w\n𝐗x\n𝐘y\n𝐙z\n𝐴a\n𝐵b\n𝐶c\n𝐷d\n𝐸e\n𝐹f\n𝐺g\n𝐻h\n𝐼i\n𝐽j\n𝐾k\n𝐿l\n𝑀m\n" ++
  "𝑁n\n𝑂o\n𝑃p\n𝑄q\n𝑅r\n𝑆s\n𝑇t\n𝑈u\n𝑉v\n𝑊w\n𝑋x\n𝑌y\n𝑍z\n𝑨a\n𝑩b\n𝑪c\n𝑫d\n𝑬e\n𝑭f\n𝑮g\n𝑯h\n𝑰i\n" ++
  "𝑱j\n𝑲k\n𝑳l\n𝑴m\n𝑵n\n𝑶o\n𝑷p\n𝑸q\n𝑹r\n𝑺s\n𝑻t\n𝑼u\n𝑽v\n𝑾w\n𝑿x\n𝒀y\n𝒁z\n𝒜a\n𝒞c\n𝒟d\n𝒢g\n𝒥j\n" ++
  "𝒦k\n𝒩n\n𝒪o\n𝒫p\n𝒬q\n𝒮s\n𝒯t\n𝒰u\n𝒱v\n𝒲w\n𝒳x\n𝒴y\n𝒵z\n𝓐a\n𝓑b\n𝓒c\n𝓓d\n𝓔e\n𝓕f\n𝓖g\n𝓗h\n𝓘i\n" ++
  "𝓙j\n𝓚k\n𝓛l\n𝓜m\n𝓝n\n𝓞o\n𝓟p\n𝓠q\n𝓡r\n𝓢s\n𝓣t\n𝓤u\n𝓥v\n𝓦w\n𝓧x\n𝓨y\n𝓩z\n𝔄a\n𝔅b\n𝔇d\n𝔈e\n𝔉f\n" ++
  "𝔊g\n𝔍j\n𝔎k\n𝔏l\n𝔐m\n𝔑n\n𝔒o\n𝔓p\n𝔔q\n𝔖s\n𝔗t\n𝔘u\n𝔙v\n𝔚w\n𝔛x\n𝔜y\n𝔸a\n𝔹b\n𝔻d\n𝔼e\n𝔽f\n𝔾g\n" ++
  "𝕀i\n𝕁j\n𝕂k\n𝕃l\n𝕄m\n𝕆o\n𝕊s\n𝕋t\n𝕌u\n𝕍v\n𝕎w\n𝕏x\n𝕐y\n𝕬a\n𝕭b\n𝕮c\n𝕯d\n𝕰e\n𝕱f\n𝕲g\n𝕳h\n𝕴i\n" ++
  "𝕵j\n𝕶k\n𝕷l\n𝕸m\n𝕹n\n𝕺o\n𝕻p\n𝕼q\n𝕽r\n𝕾s\n𝕿t\n𝖀u\n𝖁v\n𝖂w\n𝖃x\n𝖄y\n𝖅z\n𝖠a\n𝖡b\n𝖢c\n𝖣d\n𝖤e\n" ++
  "𝖥f\n𝖦g\n𝖧h\n𝖨i\n𝖩j\n𝖪k\n𝖫l\n𝖬m\n𝖭n\n𝖮o\n𝖯p\n𝖰q\n𝖱r\n𝖲s\n𝖳t\n𝖴u\n𝖵v\n𝖶w\n𝖷x\n𝖸y\n𝖹z\n𝗔a\n" ++
  "𝗕b\n𝗖c\n𝗗d\n𝗘e\n𝗙f\n𝗚g\n𝗛h\n𝗜i\n𝗝j\n𝗞k\n𝗟l\n𝗠m\n𝗡n\n𝗢o\n𝗣p\n𝗤q\n𝗥r\n𝗦s\n𝗧t\n𝗨u\n𝗩v\n𝗪w\n" ++
  "𝗫x\n𝗬y\n𝗭z\n𝘈a\n𝘉b\n𝘊c\n𝘋d\n𝘌e\n𝘍f\n𝘎g\n𝘏h\n𝘐i\n𝘑j\n𝘒k\n𝘓l\n𝘔m\n𝘕n\n𝘖o\n𝘗p\n𝘘q\n𝘙r\n𝘚s\n" ++
  "𝘛t\n𝘜u\n𝘝v\n𝘞w\n𝘟x\n𝘠y\n𝘡z\n𝘼a\n𝘽b\n𝘾c\n𝘿d\n𝙀e\n𝙁f\n𝙂g\n𝙃h\n𝙄i\n𝙅j\n𝙆k\n𝙇l\n𝙈m\n𝙉n\n𝙊o\n" ++
  "𝙋p\n𝙌q\n𝙍r\n𝙎s\n𝙏t\n𝙐u\n𝙑v\n𝙒w\n𝙓x\n𝙔y\n𝙕z\n𝙰a\n𝙱b\n𝙲c\n𝙳d\n𝙴e\n𝙵f\n𝙶g\n𝙷h\n𝙸i\n𝙹j\n𝙺k\n" ++
  "𝙻l\n𝙼m\n𝙽n\n𝙾o\n𝙿p\n𝚀q\n𝚁r\n𝚂s\n𝚃t\n𝚄u\n𝚅v\n𝚆w\n𝚇x\n𝚈y\n𝚉z\n𝚨α\n𝚩β\n𝚪γ\n𝚫δ\n𝚬ε\n𝚭ζ\n𝚮η\n" ++
  "𝚯θ\n𝚰ι\n𝚱κ\n𝚲λ\n𝚳μ\n𝚴ν\n𝚵ξ\n𝚶ο\n𝚷π\n𝚸ρ\n𝚹θ\n𝚺σ\n𝚻τ\n𝚼υ\n𝚽φ\n𝚾χ\n𝚿ψ\n𝛀ω\n𝛓σ\n𝛢α\n𝛣β\n𝛤γ\n" ++
  "𝛥δ\n𝛦ε\n𝛧ζ\n𝛨η\n𝛩θ\n𝛪ι\n𝛫κ\n𝛬λ\n𝛭μ\n𝛮ν\n𝛯ξ\n𝛰ο\n𝛱π\n𝛲ρ\n𝛳θ\n𝛴σ\n𝛵τ\n𝛶υ\n𝛷φ\n𝛸χ\n𝛹ψ\n𝛺ω\n" ++
  "𝜍σ\n𝜜α\n𝜝β\n𝜞γ\n𝜟δ\n𝜠ε\n𝜡ζ\n𝜢η\n𝜣θ\n𝜤ι\n𝜥κ\n𝜦λ\n𝜧μ\n𝜨ν\n𝜩ξ\n𝜪ο\n𝜫π\n𝜬ρ\n𝜭θ\n𝜮σ\n𝜯τ\n𝜰υ\n" ++
  "𝜱φ\n𝜲χ\n𝜳ψ\n𝜴ω\n𝝇σ\n𝝖α\n𝝗β\n𝝘γ\n𝝙δ\n𝝚ε\n𝝛ζ\n𝝜η\n𝝝θ\n𝝞ι\n𝝟κ\n𝝠λ\n𝝡μ\n𝝢ν\n𝝣ξ\n𝝤ο\n𝝥π\n𝝦ρ\n" ++
  "𝝧θ\n𝝨σ\n𝝩τ\n𝝪υ\n𝝫φ\n𝝬χ\n𝝭ψ\n𝝮ω\n𝞁σ\n𝞐α\n𝞑β\n𝞒γ\n𝞓δ\n𝞔ε\n𝞕ζ\n𝞖η\n𝞗θ\n𝞘ι\n𝞙κ\n𝞚λ\n𝞛μ\n𝞜ν\n" ++
  "𝞝ξ\n𝞞ο\n𝞟π\n𝞠ρ\n𝞡θ\n𝞢σ\n𝞣τ\n𝞤υ\n𝞥φ\n𝞦χ\n𝞧ψ\n𝞨ω\n𝞻σ\n𞤀𞤢\n𞤁𞤣\n𞤂𞤤\n𞤃𞤥\n𞤄𞤦\n𞤅𞤧\n𞤆𞤨\n𞤇𞤩\n𞤈𞤪\n" ++
  "𞤉𞤫\n𞤊𞤬\n𞤋𞤭\n𞤌𞤮\n𞤍𞤯\n𞤎𞤰\n𞤏𞤱\n𞤐𞤲\n𞤑𞤳\n𞤒𞤴\n𞤓𞤵\n𞤔𞤶\n𞤕𞤷\n𞤖𞤸\n𞤗𞤹\n𞤘𞤺\n𞤙𞤻\n𞤚𞤼\n𞤛𞤽\n𞤜𞤾\n𞤝𞤿\n𞤞𞥀\n" ++
  "𞤟𞥁\n𞤠𞥂\n𞤡𞥃\n"

/-- First and last code point of each range of characters that are refused. -/
def refusedRanges : Array (Nat × Nat) := #[
    (128, 160), (832, 833), (1757, 1757), (1807, 1807), (5760, 5760), (6158, 6158), (8192, 8207),
    (8232, 8239), (8287, 8291), (8298, 8303), (12272, 12283), (12288, 12288), (55296, 63743),
    (64976, 65007), (65279, 65279), (65529, 65535), (119155, 119162), (131070, 131071),
    (196606, 196607), (262142, 262143), (327678, 327679), (393214, 393215), (458750, 458751),
    (524286, 524287), (589822, 589823), (655358, 655359), (720894, 720895), (786430, 786431),
    (851966, 851967), (917502, 917503), (917505, 917505), (917536, 917631), (983038, 1114111)]

/-- First and last code point of each range of letters that are written from right to left. -/
def leftwardRanges : Array (Nat × Nat) := #[
    (1470, 1470), (1472, 1472), (1475, 1475), (1488, 1514), (1520, 1524), (1563, 1563),
    (1567, 1567), (1569, 1594), (1600, 1610), (1645, 1647), (1649, 1749), (1757, 1757),
    (1765, 1766), (1786, 1790), (1792, 1805), (1808, 1808), (1810, 1836), (1920, 1957),
    (1969, 1969), (8207, 8207), (64285, 64285), (64287, 64296), (64298, 64310), (64312, 64316),
    (64318, 64318), (64320, 64321), (64323, 64324), (64326, 64433), (64467, 64829),
    (64848, 64911), (64914, 64967), (65008, 65020), (65136, 65140), (65142, 65276)]

/-- First and last code point of each range of letters that are written from left to right. -/
def rightwardRanges : Array (Nat × Nat) := #[
    (65, 90), (97, 122), (170, 170), (181, 181), (186, 186), (192, 214), (216, 246), (248, 544),
    (546, 563), (592, 685), (688, 696), (699, 705), (720, 721), (736, 740), (750, 750),
    (890, 890), (902, 902), (904, 906), (908, 908), (910, 929), (931, 974), (976, 1013),
    (1024, 1154), (1162, 1230), (1232, 1269), (1272, 1273), (1280, 1295), (1329, 1366),
    (1369, 1375), (1377, 1415), (1417, 1417), (2307, 2307), (2309, 2361), (2365, 2368),
    (2377, 2380), (2384, 2384), (2392, 2401), (2404, 2416), (2434, 2435), (2437, 2444),
    (2447, 2448), (2451, 2472), (2474, 2480), (2482, 2482), (2486, 2489), (2494, 2496),
    (2503, 2504), (2507, 2508), (2519, 2519), (2524, 2525), (2527, 2529), (2534, 2545),
    (2548, 2554), (2565, 2570), (2575, 2576), (2579, 2600), (2602, 2608), (2610, 2611),
    (2613, 2614), (2616, 2617), (2622, 2624), (2649, 2652), (2654, 2654), (2662, 2671),
    (2674, 2676), (2691, 2691), (2693, 2699), (2701, 2701), (2703, 2705), (2707, 2728),
    (2730, 2736), (2738, 2739), (2741, 2745), (2749, 2752), (2761, 2761), (2763, 2764),
    (2768, 2768), (2784, 2784), (2790, 2799), (2818, 2819), (2821, 2828), (2831, 2832),
    (2835, 2856), (2858, 2864), (2866, 2867), (2870, 2873), (2877, 2878), (2880, 2880),
    (2887, 2888), (2891, 2892), (2903, 2903), (2908, 2909), (2911, 2913), (2918, 2928),
    (2947, 2947), (2949, 2954), (2958, 2960), (2962, 2965), (2969, 2970), (2972, 2972),
    (2974, 2975), (2979, 2980), (2984, 2986), (2990, 2997), (2999, 3001), (3006, 3007),
    (3009, 3010), (3014, 3016), (3018, 3020), (3031, 3031), (3047, 3058), (3073, 3075),
    (3077, 3084), (3086, 3088), (3090, 3112), (3114, 3123), (3125, 3129), (3137, 3140),
    (3168, 3169), (3174, 3183), (3202, 3203), (3205, 3212), (3214, 3216), (3218, 3240),
    (3242, 3251), (3253, 3257), (3262, 3262), (3264, 3268), (3271, 3272), (3274, 3275),
    (3285, 3286), (3294, 3294), (3296, 3297), (3302, 3311), (3330, 3331), (3333, 3340),
    (3342, 3344), (3346, 3368), (3370, 3385), (3390, 3392), (3398, 3400), (3402, 3404),
    (3415, 3415), (3424, 3425), (3430, 3439), (3458, 3459), (3461, 3478), (3482, 3505),
    (3507, 3515), (3517, 3517), (3520, 3526), (3535, 3537), (3544, 3551), (3570, 3572),
    (3585, 3632), (3634, 3635), (3648, 3654), (3663, 3675), (3713, 3714), (3716, 3716),
    (3719, 3720), (3722, 3722), (3725, 3725), (3732, 3735), (3737, 3743), (3745, 3747),
    (3749, 3749), (3751, 3751), (3754, 3755), (3757, 3760), (3762, 3763), (3773, 3773),
    (3776, 3780), (3782, 3782), (3792, 3801), (3804, 3805), (3840, 3863), (3866, 3892),
    (3894, 3894), (3896, 3896), (3902, 3911), (3913, 3946), (3967, 3967), (3973, 3973),
    (3976, 3979), (4030, 4037), (4039, 4044), (4047, 4047), (4096, 4129), (4131, 4135),
    (4137, 4138), (4140, 4140), (4145, 4145), (4152, 4152), (4160, 4183), (4256, 4293),
    (4304, 4344), (4347, 4347), (4352, 4441), (4447, 4514), (4520, 4601), (4608, 4614),
    (4616, 4678), (4680, 4680), (4682, 4685), (4688, 4694), (4696, 4696), (4698, 4701),
    (4704, 4742), (4744, 4744), (4746, 4749), (4752, 4782), (4784, 4784), (4786, 4789),
    (4792, 4798), (4800, 4800), (4802, 4805), (4808, 4814), (4816, 4822), (4824, 4846),
    (4848, 4878), (4880, 4880), (4882, 4885), (4888, 4894), (4896, 4934), (4936, 4954),
    (4961, 4988), (5024, 5108), (5121, 5750), (5761, 5786), (5792, 5872), (5888, 5900),
    (5902, 5905), (5920, 5937), (5941, 5942), (5952, 5969), (5984, 5996), (5998, 6000),
    (6016, 6070), (6078, 6085), (6087, 6088), (6100, 6106), (6108, 6108), (6112, 6121),
    (6160, 6169), (6176, 6263), (6272, 6312), (7680, 7835), (7840, 7929), (7936, 7957),
    (7960, 7965), (7968, 8005), (8008, 8013), (8016, 8023), (8025, 8025), (8027, 8027),
    (8029, 8029), (8031, 8061), (8064, 8116), (8118, 8124), (8126, 8126), (8130, 8132),
    (8134, 8140), (8144, 8147), (8150, 8155), (8160, 8172), (8178, 8180), (8182, 8188),
    (8206, 8206), (8305, 8305), (8319, 8319), (8450, 8450), (8455, 8455), (8458, 8467),
    (8469, 8469), (8473, 8477), (8484, 8484), (8486, 8486), (8488, 8488), (8490, 8493),
    (8495, 8497), (8499, 8505), (8509, 8511), (8517, 8521), (8544, 8579), (9014, 9082),
    (9109, 9109), (9372, 9449), (12293, 12295), (12321, 12329), (12337, 12341), (12344, 12348),
    (12353, 12438), (12445, 12447), (12449, 12538), (12540, 12543), (12549, 12588),
    (12593, 12686), (12688, 12727), (12784, 12828), (12832, 12867), (12896, 12923),
    (12927, 12976), (12992, 13003), (13008, 13054), (13056, 13174), (13179, 13277),
    (13280, 13310), (13312, 19893), (19968, 40869), (40960, 42124), (44032, 55203),
    (55296, 64045), (64048, 64106), (64256, 64262), (64275, 64279), (65313, 65338),
    (65345, 65370), (65382, 65470), (65474, 65479), (65482, 65487), (65490, 65495),
    (65498, 65500), (66304, 66334), (66336, 66339), (66352, 66378), (66560, 66597),
    (66600, 66637), (118784, 119029), (119040, 119078), (119082, 119142), (119146, 119154),
    (119171, 119172), (119180, 119209), (119214, 119261), (119808, 119892), (119894, 119964),
    (119966, 119967), (119970, 119970), (119973, 119974), (119977, 119980), (119982, 119993),
    (119995, 119995), (119997, 120000), (120002, 120003), (120005, 120069), (120071, 120074),
    (120077, 120084), (120086, 120092), (120094, 120121), (120123, 120126), (120128, 120132),
    (120134, 120134), (120138, 120144), (120146, 120483), (120488, 120777), (131072, 173782),
    (194560, 195101), (983040, 1048573), (1048576, 1114109)]

/-! ### Names of domains

The name of a domain is made of labels between dots. A label with characters outside ASCII is written
with a mark in front, in letters, digits and hyphens. The label at the end of a text may not be
finished, so it is not written.
-/

open Scalpel

variable [Halves]

def isDot (c : Char) : Bool :=
  c = '.' || c = '\u3002' || c = '\uff0e' || c = '\uff61'

def mark : List Char :=
  "xn--".toList

def isDropped (c : Char) : Bool :=
  c = '\xad' || c = '\u034f' || c = '\u1806' || ('\u180b' ≤ c && c ≤ '\u180d')
    || ('\u200b' ≤ c && c ≤ '\u200d') || c = '\u2060' || ('\ufe00' ≤ c && c ≤ '\ufe0f')
    || c = '\ufeff'

def allForms : List (Char × List Char) :=
  Text.Normal.entries forms

def form (c : Char) : List Char :=
  (allForms.lookup c).getD [c]

def isRefused (c : Char) : Bool :=
  Half.isHalf c || Text.Normal.isInRanges refusedRanges c

/-- Letters of both directions may not stand in one label, and a label with letters from right to left
begins and ends with one. -/
def checkDirections (label : List Char) : Outcome Unit :=
  let isLeftward := Text.Normal.isInRanges leftwardRanges
  if !label.any isLeftward then .ok ()
  else if label.any (Text.Normal.isInRanges rightwardRanges) then
    .error (.miscoded "Violation of BIDI requirement 2")
  else if !label.head?.any isLeftward || !label.getLast?.any isLeftward then
    .error (.miscoded "Violation of BIDI requirement 3")
  else .ok ()

def prepared (label : List Char) : Outcome (List Char) := do
  let label :=
    Text.Normal.compatible ((label.filter fun c => !isDropped c).flatMap form)
  match label.find? isRefused with
  | some c => .error (.miscoded ("Invalid character " ++ Text.quoted c.toString))
  | none => do
    checkDirections label
    return label

def sized (label : Bytes) : Outcome Bytes :=
  if 0 < label.length && label.length < 64 then .ok label
  else .error (.miscoded "label empty or too long")

def labelBytes (label : List Char) : Outcome Bytes :=
  if label.all (·.toNat < 0x80) then sized (label.filterMap asciiByte?)
  else do
    let label ← prepared label
    if label.all (·.toNat < 0x80) then sized (label.filterMap asciiByte?)
    else if mark.isPrefixOf label then .error (.miscoded "Label starts with ACE prefix")
    else sized (mark.filterMap asciiByte? ++ Punycode.write label)

def labels (text : List Char) : List (List Char) :=
  text.splitOnP isDot

def write (text : List Char) : Outcome Bytes := do
  let finished ← (labels text).dropLast.mapM labelBytes
  return (finished.map (· ++ [46])).flatten

def labelText (label : List Char) : Outcome (List Char) :=
  if !mark.isPrefixOf label then .ok label
  else do
    let rest := (label.drop mark.length).filterMap asciiByte?
    let text ←
      match Punycode.read rest with
      | .error (.miscoded reason) =>
        .error (.miscoded ("decoding with 'punycode' codec failed (UnicodeError: " ++ reason ++ ")"))
      | outcome => outcome
    let again ← labelBytes text
    let label := label.filterMap asciiByte?
    if again = label.map (fun byte => if 65 ≤ byte && byte ≤ 90 then byte + 32 else byte) then
      .ok text
    else
      .error (.miscoded ("('IDNA does not round-trip', " ++ Text.quotedBytes label ++ ", "
        ++ Text.quotedBytes again ++ ")"))

def read (bytes : Bytes) : Outcome (List Char) := do
  let text ← readAscii bytes
  let parts := text.splitOn '.'
  let ended := parts.getLast?.any (·.isEmpty)
  let parts ← (if ended && parts ≠ [[]] then parts.dropLast else parts).mapM labelText
  return ['.'].intercalate parts ++ (if ended && !text.isEmpty then ['.'] else [])

end Scalpel.Coding.Domain
