import ProviderBindings.Code.Token
import ProviderBindings.Proofs.Naming.Identifier

/-!
The text of a type read back. A reader of text sees words, marks and brackets one by one, and in the name of a
type it sees the tokens that the type is emitted as.
-/

namespace ProviderBindings.Code

/-- What a reader of text tells apart: brackets open and close, and a mark of several characters is read
character by character. -/
inductive Lexeme where
  | word (text : String)
  | mark (c : Char)
  | literal (text : String)
  | opening (bracket : Bracket)
  | closing (bracket : Bracket)
  deriving DecidableEq, Repr

mutual
def Token.lexemes : Token → List Lexeme
  | .word text => [.word text]
  | .punct c _ => [.mark c]
  | .literal text => [.literal text]
  | .group bracket contents => .opening bracket :: Token.lexemesOf contents ++ [.closing bracket]

def Token.lexemesOf : List Token → List Lexeme
  | [] => []
  | t :: rest => Token.lexemes t ++ Token.lexemesOf rest
end

theorem Token.lexemesOf_append (a b : List Token) :
    Token.lexemesOf (a ++ b) = Token.lexemesOf a ++ Token.lexemesOf b := by
  induction a with
  | nil => rfl
  | cons t rest ih => rw [List.cons_append, Token.lexemesOf, Token.lexemesOf, ih, List.append_assoc]

namespace Lexeme

def marks : List Char :=
  ['!', '#', '$', '%', '&', '\'', '*', '+', ',', '-', '.', '/', ':', ';', '<', '=', '>', '?', '@', '^', '|',
    '~']

def ofMark? (c : Char) : Option (List Lexeme) :=
  if c = ' ' then some []
  else if c = '(' then some [.opening .round]
  else if c = ')' then some [.closing .round]
  else if c = '[' then some [.opening .square]
  else if c = ']' then some [.closing .square]
  else if c = '\x7b' then some [.opening .curly]
  else if c = '\x7d' then some [.closing .curly]
  else if c ∈ marks then some [.mark c]
  else none

def ofWord? (begun : List Char) : Option (List Lexeme) :=
  if begun = [] then some []
  else if isIdentifier (String.ofList begun) then some [.word (String.ofList begun)]
  else none

@[simp] theorem ofWord?_nil : ofWord? [] = some [] := rfl

theorem ofWord?_of_isIdentifier {name : String} (h : isIdentifier name = true) :
    ofWord? name.toList = some [.word name] := by
  have hne : name.toList ≠ [] := by
    intro hnil
    rw [isIdentifier, hnil] at h
    cases h
  rw [ofWord?, if_neg hne, String.ofList_toList, if_pos h]

/-- Reads a text behind the characters of a word that has been begun. A word goes on as long as it can, and
`r#` may start one. -/
def readAfter (begun : List Char) : List Char → Option (List Lexeme)
  | [] => ofWord? begun
  | c :: rest =>
      if isNameChar c || c == '#' && begun == ['r'] then readAfter (begun ++ [c]) rest
      else do
        let word ← ofWord? begun
        let here ← ofMark? c
        let behind ← readAfter [] rest
        some (word ++ here ++ behind)

def ofText? (s : String) : Option (List Lexeme) := readAfter [] s.toList

end Lexeme

/-! ### Reading in parts -/

def isWordChar (c : Char) : Bool := isNameChar c || c == '#'

def Apart (a b : List Char) : Prop :=
  ∀ c ∈ a.getLast?, ∀ d ∈ b.head?, isWordChar c = true → isWordChar d = false

theorem Apart.tail {begun a b : List Char} {c : Char} (h : Apart (begun ++ c :: a) b) : Apart a b := by
  intro d hd
  refine h d ?_
  rw [Option.mem_def, List.getLast?_append, List.getLast?_cons, Option.mem_def.mp hd]
  rfl

theorem Apart.of_last {a b : List Char} (h : ∀ c ∈ a.getLast?, isWordChar c = false) : Apart a b := by
  intro c hc d _ hword
  rw [h c hc] at hword
  cases hword

theorem Apart.of_head {a b : List Char} (h : ∀ d ∈ b.head?, isWordChar d = false) : Apart a b :=
  fun _ _ d hd _ => h d hd

namespace Lexeme

variable {begun a b : List Char}

theorem readAfter_of_head (h : ∀ d ∈ b.head?, isWordChar d = false) (begun : List Char) :
    readAfter begun b = (ofWord? begun).bind fun word => (readAfter [] b).map (word ++ ·) := by
  cases b with
  | nil => cases hword : ofWord? begun <;> simp [readAfter, hword]
  | cons d more =>
      obtain ⟨hname, hmark⟩ : isNameChar d = false ∧ d ≠ '#' := by simpa [isWordChar] using h
      have hends : ¬ (isNameChar d || d == '#' && begun == ['r']) = true := by simp [hname, hmark]
      rw [readAfter, if_neg hends, readAfter, if_neg (by simp [hname])]
      cases ofWord? begun <;> cases ofMark? d <;> cases readAfter [] more <;> simp

theorem readAfter_append {ms : List Lexeme} (hb : readAfter [] b = some ms) :
    ∀ {begun : List Char} {ls : List Lexeme}, (∀ c ∈ begun, isWordChar c = true) → Apart (begun ++ a) b →
      readAfter begun a = some ls → readAfter begun (a ++ b) = some (ls ++ ms) := by
  induction a with
  | nil =>
      intro begun ls hbegun hapart h
      rw [List.append_nil] at hapart
      rw [readAfter] at h
      by_cases hnil : begun = []
      · subst hnil
        obtain rfl : ls = [] := by simpa [ofWord?] using h.symm
        exact hb
      · have hlast := hbegun _ (List.getLast_mem hnil)
        have hhead := fun d hd => hapart _ (List.getLast?_eq_some_getLast hnil) d hd hlast
        rw [List.nil_append, readAfter_of_head hhead, h, hb]
        rfl
  | cons c rest ih =>
      intro begun ls hbegun hapart h
      rw [readAfter] at h
      rw [List.cons_append, readAfter]
      split at h
      · rename_i hgoes
        rw [if_pos hgoes]
        refine ih (List.forall_mem_append.mpr ⟨hbegun, List.forall_mem_singleton.mpr ?_⟩)
          (by simpa using hapart) h
        rw [isWordChar]
        grind
      · rename_i hends
        rw [if_neg hends]
        simp only [Option.bind_eq_bind, Option.bind_eq_some_iff] at h ⊢
        obtain ⟨word, hword, here, hhere, behind, hbehind, hls⟩ := h
        refine ⟨word, hword, here, hhere, behind ++ ms, ih (by simp) hapart.tail hbehind, ?_⟩
        rw [← Option.some.inj hls]
        simp only [List.append_assoc]

theorem readAfter_word {cs : List Char} (h : ∀ c ∈ cs, isNameChar c = true) :
    ∀ begun, readAfter begun cs = ofWord? (begun ++ cs) := by
  induction cs with
  | nil => simp [readAfter]
  | cons c rest ih =>
      obtain ⟨hc, hrest⟩ := List.forall_mem_cons.mp h
      intro begun
      rw [readAfter, if_pos (by simp [hc]), ih hrest, List.append_assoc, List.singleton_append]

theorem ofText?_word {name : String} (h : isIdentifier name = true) : ofText? name = some [.word name] := by
  rw [← ofWord?_of_isIdentifier h, ofText?]
  rw [isIdentifier] at h
  split at h
  · rename_i body hbody
    rw [Bool.and_eq_true] at h
    have hchars := Naming.isNameChar_of_isPlainIdentifier h.1
    have hstart : readAfter [] ('r' :: '#' :: body) = readAfter ['r', '#'] body := by
      rw [readAfter, if_pos (by decide), readAfter, if_pos (by decide)]
      rfl
    rw [hbody, hstart]
    exact readAfter_word hchars _
  · exact readAfter_word (Naming.isNameChar_of_isPlainIdentifier h) []

end Lexeme

/-! ### Texts of tokens -/

/-- A text is read as tokens, apart from the brackets they are grouped by and from where marks go on. -/
def Reads (s : String) (ts : List Token) : Prop := Lexeme.ofText? s = some (Token.lexemesOf ts)

instance (s : String) (ts : List Token) : Decidable (Reads s ts) := inferInstanceAs (Decidable (_ = _))

namespace Reads

variable {s t : String} {ts us : List Token}

theorem append (hs : Reads s ts) (ht : Reads t us) (h : Apart s.toList t.toList) :
    Reads (s ++ t) (ts ++ us) := by
  rw [Reads, Lexeme.ofText?, String.toList_append, Token.lexemesOf_append]
  exact Lexeme.readAfter_append ht (by simp) h hs

theorem behind (hs : Reads s ts) (ht : Reads t us) (h : ∀ c ∈ s.toList.getLast?, isWordChar c = false) :
    Reads (s ++ t) (ts ++ us) :=
  hs.append ht (.of_last h)

theorem closed (hs : Reads s ts) : Reads (s ++ ">") (ts ++ [Token.mark '>']) :=
  hs.append (by decide) (.of_head (by decide))

theorem separated (hs : Reads s ts) (ht : Reads t us) :
    Reads (s ++ ", " ++ t) (ts ++ Token.mark ',' :: us) := by
  have hcomma : Reads (s ++ ", ") (ts ++ [Token.mark ',']) := hs.append (by decide) (.of_head (by decide))
  simpa using hcomma.behind ht (by simp [isWordChar, isNameChar])

theorem word {name : String} (h : isIdentifier name = true) : Reads name [.word name] :=
  Lexeme.ofText?_word h

theorem path {segments : List String} (h : ∀ s ∈ segments, isIdentifier s = true) :
    Reads ("::".intercalate segments) (Token.path segments) := by
  induction segments with
  | nil => rfl
  | cons s rest ih =>
      obtain ⟨hs, hrest⟩ := List.forall_mem_cons.mp h
      cases rest with
      | nil =>
          rw [String.intercalate_singleton]
          exact word hs
      | cons next others =>
          have hlead : Reads (s ++ "::") (.word s :: Token.pathMark) :=
            (word hs).append (by decide) (.of_head (by decide))
          rw [String.intercalate_cons_of_ne_nil (by simp)]
          exact hlead.behind (ih hrest) (by simp [isWordChar, isNameChar])

end Reads

/-! ### Types -/

theorem isIdentifier_segments (item : SupportItem) : ∀ s ∈ item.segments, isIdentifier s = true := by
  cases item <;> decide

namespace Ty

-- The equations of `text` are stated where they are used, since each of them holds by definition.
mutual
theorem reads_text : ∀ t : Ty, (∀ name ∈ t.names, isIdentifier name = true) → Reads t.text t.tokens
  | .unit => fun _ => show Reads "()" [.group .round []] by decide
  | .bool => fun _ => show Reads "bool" [.word "bool"] by decide
  | .float => fun _ => show Reads "f64" [.word "f64"] by decide
  | .string => fun _ => show Reads "String" [.word "String"] by decide
  | .str => fun _ => show Reads "&str" [Token.mark '&', .word "str"] by decide
  | .staticStr => fun _ =>
      show Reads "&'static str" [Token.mark '&', .punct '\'' true, .word "static", .word "str"] by decide
  | .bytes => fun _ => show Reads "&[u8]" [Token.mark '&', .group .square [.word "u8"]] by decide
  | .self => fun _ => show Reads "Self" [.word "Self"] by decide
  | .vec item => fun h => by
      have hlead : Reads "Vec<" [.word "Vec", Token.mark '<'] := by decide
      exact (hlead.behind (reads_text item h) (by decide)).closed
  | .map value => fun h => by
      have hlead : Reads "std::collections::BTreeMap<String, "
          (Token.path ["std", "collections", "BTreeMap"] ++
            [Token.mark '<', .word "String", Token.mark ',']) := by
        decide
      exact (hlead.behind (reads_text value h) (by decide)).closed
  | .option item => fun h => by
      have hlead : Reads "Option<" [.word "Option", Token.mark '<'] := by decide
      exact (hlead.behind (reads_text item h) (by decide)).closed
  | .result ok error => fun h => by
      obtain ⟨hok, herror⟩ := List.forall_mem_append.mp h
      have hlead : Reads "Result<" [.word "Result", Token.mark '<'] := by decide
      have hboth := ((hlead.behind (reads_text ok hok) (by decide)).separated (reads_text error herror)).closed
      show Reads ("Result<" ++ ok.text ++ ", " ++ error.text ++ ">") _
      simpa [tokens, Token.angled] using hboth
  | .ref target => fun h => by
      have hlead : Reads "&" [Token.mark '&'] := by decide
      exact hlead.behind (reads_text target h) (by decide)
  | .refMut target => fun h => by
      have hlead : Reads "&mut " [Token.mark '&', .word "mut"] := by decide
      exact hlead.behind (reads_text target h) (by decide)
  | .implInto target => fun h => by
      have hlead : Reads "impl Into<" [.word "impl", .word "Into", Token.mark '<'] := by decide
      exact (hlead.behind (reads_text target h) (by decide)).closed
  | .named (some qualifier) name => fun h => by
      have hpath : ∀ segment ∈ [qualifier, name], isIdentifier segment = true := fun segment hs =>
        h segment (by simpa [names, or_comm] using hs)
      show Reads (qualifier ++ "::" ++ name) (Token.path [qualifier, name])
      simpa [String.intercalate_cons_of_ne_nil] using Reads.path hpath
  | .named none name => fun h => Reads.word (h name List.mem_cons_self)
  | .support item [] => fun _ => Reads.path (isIdentifier_segments item)
  | .support item (arg :: rest) => fun h => by
      have hlead : Reads (item.fullPath ++ "<") (Token.path item.segments ++ [Token.mark '<']) :=
        (Reads.path (isIdentifier_segments item)).append (by decide) (.of_head (by decide))
      have hargs := (hlead.behind (reads_texts (arg :: rest) h) (by simp [isWordChar, isNameChar])).closed
      show Reads (item.fullPath ++ "<" ++ texts (arg :: rest) ++ ">") _
      simpa [tokens, Token.angled] using hargs

theorem reads_texts : ∀ ts : List Ty, (∀ name ∈ namesOf ts, isIdentifier name = true) →
    Reads (texts ts) (tokensOf ts)
  | [] => fun _ => rfl
  | [t] => fun h => reads_text t (List.forall_mem_append.mp h).1
  | t :: next :: rest => fun h => by
      obtain ⟨hfirst, hrest⟩ := List.forall_mem_append.mp h
      exact (reads_text t hfirst).separated (reads_texts (next :: rest) hrest)
end

theorem ofText?_text {t : Ty} (h : ∀ name ∈ t.names, isIdentifier name = true) :
    Lexeme.ofText? t.text = some (Token.lexemesOf t.tokens) :=
  reads_text t h

def tableResult : Ty :=
  .result (.map (.support .listRef [.named (some "r#type") "_3d"])) (.option .bytes)

theorem ofText?_text_tableResult :
    (∀ name ∈ tableResult.names, isIdentifier name = true) ∧
    Lexeme.ofText? "Result<std::collections::BTreeMap<String, terra::ListRef<r#type::_3d>>, Option<&[u8]>>" =
      some (Token.lexemesOf tableResult.tokens) := by
  have hnames : ∀ name ∈ tableResult.names, isIdentifier name = true := by decide
  exact ⟨hnames, ofText?_text hnames⟩

end Ty

end ProviderBindings.Code
