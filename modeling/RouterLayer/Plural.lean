import RouterLayer.Text.Word

set_option autoImplicit false

namespace RouterLayer.Plural

def irregularWords : List (String × String) := [
  ("i", "we"), ("me", "us"), ("he", "they"), ("she", "they"), ("them", "them"),
  ("myself", "ourselves"), ("yourself", "yourselves"), ("itself", "themselves"),
  ("herself", "themselves"), ("himself", "themselves"), ("themself", "themselves"),
  ("is", "are"), ("was", "were"), ("has", "have"), ("this", "these"), ("that", "those"),
  ("my", "our"), ("its", "their"), ("his", "their"), ("her", "their"), ("echo", "echoes"),
  ("dingo", "dingoes"), ("volcano", "volcanoes"), ("tornado", "tornadoes"),
  ("torpedo", "torpedoes"), ("genus", "genera"), ("viscus", "viscera"), ("stigma", "stigmata"),
  ("stoma", "stomata"), ("dogma", "dogmata"), ("lemma", "lemmata"), ("schema", "schemata"),
  ("anathema", "anathemata"), ("ox", "oxen"), ("axe", "axes"), ("die", "dice"), ("yes", "yeses"),
  ("foot", "feet"), ("eave", "eaves"), ("goose", "geese"), ("tooth", "teeth"),
  ("quiz", "quizzes"), ("human", "humans"), ("proof", "proofs"), ("carve", "carves"),
  ("valve", "valves"), ("looey", "looies"), ("thief", "thieves"), ("groove", "grooves"),
  ("pickaxe", "pickaxes"), ("passerby", "passersby"), ("canvas", "canvases")]

def irregular : List (Text × Text) := irregularWords.map fun w => (w.1, w.2)

def uncountableWords : List String := [
  "adulthood", "advice", "agenda", "aid", "aircraft", "alcohol", "ammo", "analytics", "anime",
  "athletics", "audio", "bison", "blood", "bream", "buffalo", "butter", "carp", "cash",
  "chassis", "chess", "clothing", "cod", "commerce", "cooperation", "corps", "debris",
  "diabetes", "digestion", "elk", "energy", "equipment", "excretion", "expertise", "firmware",
  "flounder", "fun", "gallows", "garbage", "graffiti", "hardware", "headquarters", "health",
  "herpes", "highjinks", "homework", "housework", "information", "jeans", "justice", "kudos",
  "labour", "literature", "machinery", "mackerel", "mail", "media", "mews", "moose", "music",
  "mud", "manga", "news", "only", "personnel", "pike", "plankton", "pliers", "police",
  "pollution", "premises", "rain", "research", "rice", "salmon", "scissors", "series", "sewage",
  "shambles", "shrimp", "software", "staff", "swine", "tennis", "traffic", "transportation",
  "trout", "tuna", "wealth", "welfare", "whiting", "wildebeest", "wildlife", "you"]

def uncountable : List Text := uncountableWords.map Text.ofString

inductive Slot
  | among (letters : Text)
  | except (letters : Text)
  | foreign
  deriving DecidableEq, Repr

/-- The two letters that are the same as an ASCII letter but for their case. -/
def fold (c : CodePoint) : CodePoint := if c = 'ı' then 'i' else if c = 'ſ' then 's' else c

def Slot.accepts (slot : Slot) (c : CodePoint) : Bool :=
  match slot with
  | .among letters => letters.contains (fold c)
  | .except letters => !letters.contains (fold c)
  | .foreign => 0x7F < (fold c).code

inductive Anchor
  | anywhere | wordStart | textStart
  deriving DecidableEq, Repr

def Anchor.holds (anchor : Anchor) (before : Text) : Bool :=
  match anchor with
  | .anywhere => true
  | .wordStart => !(before.getLast?.any Text.isWordChar)
  | .textStart => before.isEmpty

structure Rule where
  anchor : Anchor
  stems : List (List Slot)
  endings : List (List Slot)
  ending : Text
  deriving DecidableEq, Repr

def word (s : Text) : List Slot := s.map fun c => .among [c]

def words (s : List Text) : List (List Slot) := s.map word

def vowels : Text := "aeiou"

def unchanged (stems : List (List Slot)) : Rule := ⟨.anywhere, stems, [[]], ""⟩

def swap (stems : List (List Slot)) (endings : List Text) (ending : Text) : Rule :=
  ⟨.anywhere, stems, words endings, ending⟩

/-- The rules in the order in which they are tried. -/
def rules : List Rule := [
  unchanged (words ["sheep"]),
  unchanged (words ["pox"]),
  unchanged [[.among "o", .among "iu", .among "s"]],
  unchanged (words ["measles"]),
  unchanged (words ["fish"]),
  unchanged (words ["deer"]),
  unchanged [.except vowels :: word "ese"],
  unchanged [word "pok" ++ .among "eé" :: word "mon"],
  ⟨.textStart, [[]], words ["thou"], "you"⟩,
  swap [[]] ["man", "men"] "men",
  unchanged (words ["eaux"]),
  swap (words ["child"]) ["ren", ""] "ren",
  swap (words ["pe"]) ["rson", "ople"] "ople",
  ⟨.wordStart, words ["titm", "m", "l"], words ["ice", "ouse"], "ice"⟩,
  swap (words ["matr", "cod", "mur", "sil", "vert", "ind", "append"]) ["ix", "ex"] "ices",
  swap (words ["x", "ch", "ss", "sh", "zz"]) [""] "es",
  swap [[.except "ch", .among "ieo", .among "ln"]] ["ey"] "ies",
  swap [[.except "aeiouy"], word "qu"] ["y"] "ies",
  swap (words ["kni", "wi", "li"]) ["fe"] "ves",
  swap (words ["ar", "l", "ea", "eo", "oa", "hoo"]) ["f"] "ves",
  swap [[]] ["sis"] "ses",
  swap (words ["apheli", "hyperbat", "periheli", "asyndet", "noumen", "phenomen", "criteri",
    "organ", "prolegomen", "hedr", "automat"]) ["a", "on"] "a",
  swap (words ["agend", "addend", "millenni", "dat", "extrem", "bacteri", "desiderat", "strat",
    "candelabr", "errat", "ov", "symposi", "curricul", "automat", "quor"]) ["a", "um"] "a",
  swap (words ["her", "at", "gr"]) ["o"] "oes",
  swap (words ["seraph", "cherub"]) ["im", ""] "im",
  swap (words ["alumn", "alg", "vertebr"]) ["a", "ae"] "ae",
  swap (words ["alumn", "syllab", "vir", "radi", "nucle", "fung", "cact", "stimul", "termin",
    "bacill", "foc", "uter", "loc", "strat"]) ["us", "i"] "i",
  unchanged [.except "l" :: word "ias", .among vowels :: word "las",
    .among "ejzr" :: word "as", .among "iu" :: word "am"],
  swap [[.among "e", .among "mn", .among "u"]] ["s", ""] "s",
  swap [word "alias", .except "aou" :: word "us",
    .among "t" :: .among "lm" :: word "as", word "gas", word "ris"] [""] "es",
  swap (words ["ax", "test"]) ["is"] "es",
  unchanged [.except vowels :: word "ese"],
  unchanged [[.foreign]],
  swap [[]] ["s", ""] "s"]

def accepts (slots : List Slot) (cs : Text) : Bool :=
  slots.length == cs.length && (slots.zip cs).all fun p => p.1.accepts p.2

def before? (slots : List Slot) (cs : Text) : Option Text :=
  let n := cs.length - slots.length
  if slots.length ≤ cs.length && accepts slots (cs.drop n) then some (cs.take n) else none

/-- The stem is kept with all that stands before it. -/
def Rule.inflect? (rule : Rule) (cs : Text) : Option Text :=
  rule.endings.findSome? fun ending =>
    match before? ending cs with
    | none => none
    | some kept =>
      if rule.stems.any fun stem => (before? stem kept).any rule.anchor.holds then
        some (kept ++ rule.ending)
      else none

def byRule (cs : Text) : Text := (rules.findSome? (·.inflect? cs)).getD cs

/-- The rules look at the text before a line end that closes it. -/
def beforeLineEnd (f : Text → Text) (cs : Text) : Text :=
  if cs.getLast? = some '\n' then f cs.dropLast ++ "\n" else f cs

def plural (s : Text) : Text :=
  if irregular.any (·.2 == s) then s
  else
    match irregular.lookup s with
    | some p => p
    | none => if s.isEmpty || uncountable.contains s then s else beforeLineEnd byRule s

end RouterLayer.Plural
