/-!
# Composite characters

A composite stands for a character followed by another, most often a letter and a mark. The table
lists the composites under the second character; syllables of Hangul are composed by arithmetic
from their letters. `composite?` and `parts?` go from two characters to one and back.
-/

namespace HttpGateway.Text

/-- For a second character, first characters each followed by the composite of the two. -/
def compositeGroups : List (Nat × String) :=
  [(0x300, "AÀEÈIÌNǸOÒUÙWẀYỲaàeèiìnǹoòuùwẁyỳ¨῭ÂẦÊỀÔỒÜǛâầêềôồüǜĂẰăằĒḔēḕŌṐōṑƠỜơờƯỪưừΑᾺΕῈΗῊΙῚΟῸ"),
    (0x300, "ΥῪΩῺαὰεὲηὴιὶοὸυὺωὼϊῒϋῢЕЀИЍеѐиѝἀἂἁἃἈἊἉἋἐἒἑἓἘἚἙἛἠἢἡἣἨἪἩἫἰἲἱἳἸἺἹἻὀὂὁὃὈὊὉὋὐὒὑὓὙὛὠὢὡὣ"),
    (0x300, "ὨὪὩὫ᾿῍῾῝"),
    (0x301, "AÁCĆEÉGǴIÍKḰLĹMḾNŃOÓPṔRŔSŚUÚWẂYÝZŹaácćeégǵiíkḱlĺmḿnńoópṕrŕsśuúwẃyýzź¨΅ÂẤÅǺÆǼÇḈÊẾ"),
    (0x301, "ÏḮÔỐÕṌØǾÜǗâấåǻæǽçḉêếïḯôốõṍøǿüǘĂẮăắĒḖēḗŌṒōṓŨṸũṹƠỚơớƯỨưứΑΆΕΈΗΉΙΊΟΌΥΎΩΏαάεέηήιίοόυύ"),
    (0x301, "ωώϊΐϋΰϒϓГЃКЌгѓкќἀἄἁἅἈἌἉἍἐἔἑἕἘἜἙἝἠἤἡἥἨἬἩἭἰἴἱἵἸἼἹἽὀὄὁὅὈὌὉὍὐὔὑὕὙὝὠὤὡὥὨὬὩὭ᾿῎῾῞"),
    (0x302, "AÂCĈEÊGĜHĤIÎJĴOÔSŜUÛWŴYŶZẐaâcĉeêgĝhĥiîjĵoôsŝuûwŵyŷzẑẠẬạậẸỆẹệỌỘọộ"),
    (0x303, "AÃEẼIĨNÑOÕUŨVṼYỸaãeẽiĩnñoõuũvṽyỹÂẪÊỄÔỖâẫêễôỗĂẴăẵƠỠơỡƯỮưữ"),
    (0x304, "AĀEĒGḠIĪOŌUŪYȲaāeēgḡiīoōuūyȳÄǞÆǢÕȬÖȪÜǕäǟæǣõȭöȫüǖǪǬǫǭȦǠȧǡȮȰȯȱΑᾹΙῙΥῩαᾱιῑυῡИӢУӮиӣуӯ"),
    (0x304, "ḶḸḷḹṚṜṛṝ"),
    (0x306, "AĂEĔGĞIĬOŎUŬaăeĕgğiĭoŏuŭȨḜȩḝΑᾸΙῘΥῨαᾰιῐυῠАӐЕӖЖӁИЙУЎаӑеӗжӂийуўẠẶạặ"),
    (0x307, "AȦBḂCĊDḊEĖFḞGĠHḢIİMṀNṄOȮPṖRṘSṠTṪWẆXẊYẎZŻaȧbḃcċdḋeėfḟgġhḣmṁnṅoȯpṗrṙsṡtṫwẇxẋyẏzżŚṤ"),
    (0x307, "śṥŠṦšṧſẛṢṨṣṩ𐗒𐗉𐗚𐗤"),
    (0x308, "AÄEËHḦIÏOÖUÜWẄXẌYŸaäeëhḧiïoötẗuüwẅxẍyÿÕṎõṏŪṺūṻΙΪΥΫιϊυϋϒϔІЇАӒЕЁЖӜЗӞИӤОӦУӰЧӴЫӸЭӬаӓ"),
    (0x308, "еёжӝзӟиӥоӧуӱчӵыӹэӭіїӘӚәӛӨӪөӫ"),
    (0x309, "AẢEẺIỈOỎUỦYỶaảeẻiỉoỏuủyỷÂẨÊỂÔỔâẩêểôổĂẲăẳƠỞơởƯỬưử"), (0x30A, "AÅUŮaåuůwẘyẙ"),
    (0x30B, "OŐUŰoőuűУӲуӳ"),
    (0x30C, "AǍCČDĎEĚGǦHȞIǏKǨLĽNŇOǑRŘSŠTŤUǓZŽaǎcčdďeěgǧhȟiǐjǰkǩlľnňoǒrřsštťuǔzžÜǙüǚƷǮʒǯ"),
    (0x30F, "AȀEȄIȈOȌRȐUȔaȁeȅiȉoȍrȑuȕѴѶѵѷ"), (0x311, "AȂEȆIȊOȎRȒUȖaȃeȇiȋoȏrȓuȗ"),
    (0x313, "ΑἈΕἘΗἨΙἸΟὈΩὨαἀεἐηἠιἰοὀρῤυὐωὠ"), (0x314, "ΑἉΕἙΗἩΙἹΟὉΡῬΥὙΩὩαἁεἑηἡιἱοὁρῥυὑωὡ"),
    (0x31B, "OƠUƯoơuư"),
    (0x323, "AẠBḄDḌEẸHḤIỊKḲLḶMṂNṆOỌRṚSṢTṬUỤVṾWẈYỴZẒaạbḅdḍeẹhḥiịkḳlḷmṃnṇoọrṛsṣtṭuụvṿwẉyỵzẓƠỢơợ"),
    (0x323, "ƯỰưự"), (0x324, "UṲuṳ"), (0x325, "AḀaḁ"), (0x326, "SȘTȚsștț"),
    (0x327, "CÇDḐEȨGĢHḨKĶLĻNŅRŖSŞTŢcçdḑeȩgģhḩkķlļnņrŗsştţ"), (0x328, "AĄEĘIĮOǪUŲaąeęiįoǫuų"),
    (0x32D, "DḒEḘLḼNṊTṰUṶdḓeḙlḽnṋtṱuṷ"), (0x32E, "HḪhḫ"), (0x330, "EḚIḬUṴeḛiḭuṵ"),
    (0x331, "BḆDḎKḴLḺNṈRṞTṮZẔbḇdḏhẖkḵlḻnṉrṟtṯzẕ"),
    (0x338, "<≮=≠>≯←↚→↛↔↮⇐⇍⇒⇏⇔⇎∃∄∈∉∋∌∣∤∥∦∼≁≃≄≅≇≈≉≍≭≡≢≤≰≥≱≲≴≳≵≶≸≷≹≺⊀≻⊁≼⋠≽⋡⊂⊄⊃⊅⊆⊈⊇⊉⊑⋢⊒⋣⊢⊬⊨⊭⊩⊮⊫⊯"),
    (0x338, "⊲⋪⊳⋫⊴⋬⊵⋭"), (0x342, "¨῁αᾶηῆιῖυῦωῶϊῗϋῧἀἆἁἇἈἎἉἏἠἦἡἧἨἮἩἯἰἶἱἷἸἾἹἿὐὖὑὗὙὟὠὦὡὧὨὮὩὯ᾿῏῾῟"),
    (0x345, "ΑᾼΗῌΩῼάᾴήῄαᾳηῃωῳώῴἀᾀἁᾁἂᾂἃᾃἄᾄἅᾅἆᾆἇᾇἈᾈἉᾉἊᾊἋᾋἌᾌἍᾍἎᾎἏᾏἠᾐἡᾑἢᾒἣᾓἤᾔἥᾕἦᾖἧᾗἨᾘἩᾙἪᾚἫᾛἬᾜἭᾝἮᾞ"),
    (0x345, "ἯᾟὠᾠὡᾡὢᾢὣᾣὤᾤὥᾥὦᾦὧᾧὨᾨὩᾩὪᾪὫᾫὬᾬὭᾭὮᾮὯᾯὰᾲὴῂὼῲᾶᾷῆῇῶῷ"), (0x653, "اآ"),
    (0x654, "اأوؤيئہۂےۓەۀ"), (0x655, "اإ"), (0x93C, "नऩरऱळऴ"), (0x9BE, "েো"), (0x9D7, "েৌ"),
    (0xB3E, "େୋ"), (0xB56, "େୈ"), (0xB57, "େୌ"), (0xBBE, "ெொேோ"), (0xBD7, "ஒஔெௌ"), (0xC56, "ెై"),
    (0xCC2, "ೆೊ"), (0xCD5, "ಿೀೆೇೊೋ"), (0xCD6, "ೆೈ"), (0xD3E, "െൊേോ"), (0xD57, "െൌ"),
    (0xDCA, "ෙේොෝ"), (0xDCF, "ෙො"), (0xDDF, "ෙෞ"), (0x102E, "ဥဦ"),
    (0x1B35, "ᬅᬆᬇᬈᬉᬊᬋᬌᬍᬎᬑᬒᬺᬻᬼᬽᬾᭀᬿᭁᭂᭃ"),
    (0x3099, "うゔかがきぎくぐけげこごさざしじすずせぜそぞただちぢつづてでとどはばひびふぶへべほぼゝゞウヴカガキギクグケゲコゴサザシジスズセゼソゾタダチヂツヅテデトドハバヒビ"),
    (0x3099, "フブヘベホボワヷヰヸヱヹヲヺヽヾ"), (0x309A, "はぱひぴふぷへぺほぽハパヒピフプヘペホポ"), (0x110BA, "𑂙𑂚𑂛𑂜𑂥𑂫"),
    (0x11127, "𑄱𑄮𑄲𑄯"), (0x1133E, "𑍇𑍋"), (0x11357, "𑍇𑍌"), (0x113B8, "𑏅𑎸"), (0x113BB, "𑎄𑎅"),
    (0x113C2, "𑎋𑎎𑏅𑏂"), (0x113C9, "𑎂𑎃𑎐𑎑𑏅𑏉"), (0x114B0, "𑒹𑒼"), (0x114BA, "𑒹𑒻"), (0x114BD, "𑒹𑒾"),
    (0x115AF, "𑖸𑖺𑖹𑖻"), (0x11930, "𑤵𑤸"), (0x1611E, "𖄡𖄞"), (0x1611F, "𖄦𖄡𖄦𖄢𖄧𖄩𖄤"), (0x16120, "𖄨𖄡𖄨"),
    (0x16129, "𖄡𖄩"), (0x16D67, "𖵣𖵪𖵨𖵩𖵪")]

/-- Take a list of characters apart in twos. -/
def inTwos : List Char → List (Char × Char)
  | first :: second :: rest => (first, second) :: inTwos rest
  | _ => []

/-- The composites of the table, each after its two parts. -/
def compositeTable : List (Char × Char × Char) :=
  compositeGroups.flatMap fun (second, texts) =>
    (inTwos texts.toList).map fun (first, whole) => (first, Char.ofNat second, whole)

namespace Hangul

/-- The first leading consonant. -/
def leadingBase : Nat := 0x1100

/-- The first vowel. -/
def vowelBase : Nat := 0x1161

/-- One before the first trailing consonant. -/
def trailingBase : Nat := 0x11A7

/-- The first syllable. -/
def syllableBase : Nat := 0xAC00

/-- The number of leading consonants. -/
def leadingCount : Nat := 19

/-- The number of vowels. -/
def vowelCount : Nat := 21

/-- The number of trailing consonants, with the choice of none. -/
def trailingCount : Nat := 28

/-- The number of syllables. -/
def syllableCount : Nat := leadingCount * vowelCount * trailingCount

/-- The syllable of a consonant and a vowel, or of a syllable without a trailing consonant and
such a consonant. -/
def composite? (first second : Char) : Option Char :=
  let l := first.toNat - leadingBase
  let v := second.toNat - vowelBase
  let s := first.toNat - syllableBase
  let t := second.toNat - trailingBase
  if leadingBase ≤ first.toNat ∧ l < leadingCount ∧ vowelBase ≤ second.toNat ∧ v < vowelCount then
    some (Char.ofNat (syllableBase + (l * vowelCount + v) * trailingCount))
  else if syllableBase ≤ first.toNat ∧ s < syllableCount ∧ s % trailingCount = 0 ∧
      trailingBase < second.toNat ∧ t < trailingCount then
    some (Char.ofNat (first.toNat + t))
  else none

/-- The two parts of a syllable. -/
def parts? (c : Char) : Option (Char × Char) :=
  let s := c.toNat - syllableBase
  if syllableBase ≤ c.toNat ∧ s < syllableCount then
    if s % trailingCount = 0 then
      let block := s / trailingCount
      some (Char.ofNat (leadingBase + block / vowelCount),
        Char.ofNat (vowelBase + block % vowelCount))
    else
      some (Char.ofNat (c.toNat - s % trailingCount),
        Char.ofNat (trailingBase + s % trailingCount))
  else none

end Hangul

/-- The least code point that is the second part of a composite. -/
def leastSecond : Nat := 0x300

/-- The least code point of a composite. -/
def leastComposite : Nat := 0xC0

/-- The composite of two characters. -/
def composite? (first second : Char) : Option Char :=
  if second.toNat < leastSecond then none
  else
    match Hangul.composite? first second with
    | some c => some c
    | none =>
      (compositeTable.find? fun (a, b, _) => a == first && b == second).map fun (_, _, c) => c

/-- The two parts of a composite. -/
def parts? (c : Char) : Option (Char × Char) :=
  if c.toNat < leastComposite then none
  else
    match Hangul.parts? c with
    | some parts => some parts
    | none => (compositeTable.find? fun (_, _, whole) => whole == c).map fun (a, b, _) => (a, b)

end HttpGateway.Text
