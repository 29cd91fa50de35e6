import Conformance.Proofs.CheckReports
import Conformance.Proofs.StandardRules

/-!
# Messages that can be filled

The message of a rule is checked when its pack is read, and filled when the rule matches. A message
that is filled for some match was accepted. Conversely, an accepted message of plain names, doubled
braces and other text is filled for every match, with the text of each name in its place. Accessors,
conversions and formats are left out here: whether they apply depends on the value.
-/

namespace Conformance

namespace Template

/-- The characters of a name without accessor, conversion and format. -/
def isNameChar (c : Char) : Bool :=
  !isBrace c && c != '.' && c != '[' && c != '!' && c != ':'

/-- A part of a simple template, as it is written. -/
inductive Piece where
  | char (c : Char) (plain : isBrace c = false)
  | openBrace
  | closeBrace
  | name (cs : List Char) (plain : cs.all isNameChar = true)

/-- What a template says, without regard to how its text is divided. -/
abbrev Token := Char ⊕ Field

namespace Piece

/-- The characters that write a piece. -/
def source : Piece → List Char
  | char c _ => [c]
  | openBrace => ['\x7b', '\x7b']
  | closeBrace => ['\x7d', '\x7d']
  | name cs _ => '\x7b' :: (cs ++ ['\x7d'])

theorem source_length_pos (p : Piece) : 0 < p.source.length := by
  cases p <;> exact Nat.zero_lt_succ _

def name? : Piece → Option String
  | name cs _ => some (String.ofList cs)
  | _ => none

def names (pieces : List Piece) : List String := pieces.filterMap name?

theorem mem_names {pieces : List Piece} {name : String} :
    name ∈ names pieces ↔
      ∃ cs plain, Piece.name cs plain ∈ pieces ∧ String.ofList cs = name := by
  rw [names, List.mem_filterMap]
  constructor
  · rintro ⟨piece, hpiece, hname⟩
    cases piece with
    | name cs plain => exact ⟨cs, plain, hpiece, Option.some.inj hname⟩
    | _ => cases hname
  · rintro ⟨cs, plain, hpiece, rfl⟩
    exact ⟨_, hpiece, rfl⟩

/-- The characters that a piece becomes if names have the given texts. -/
def shown (text : String → String) : Piece → List Char
  | char c _ => [c]
  | openBrace => ['\x7b']
  | closeBrace => ['\x7d']
  | name cs _ => (text (String.ofList cs)).toList

/-- What a piece says. -/
def token : Piece → Token
  | char c _ => .inl c
  | openBrace => .inl '\x7b'
  | closeBrace => .inl '\x7d'
  | name cs _ => .inr { path := cs }

end Piece

def Segment.tokens : Segment → List Token
  | literal text => text.map .inl
  | field f => [.inr f]

/-- There is no defect, and the segments say the given tokens. -/
def Parsed.Reads (p : Parsed) (tokens : List Token) : Prop :=
  p.defect = none ∧ p.segments.flatMap Segment.tokens = tokens

section Reading
variable {fuel : Nat} {cs : List Char} {tokens : List Token}

theorem Parsed.Reads.after {p : Parsed} (h : p.Reads tokens) (segment : Segment) :
    (p.after segment).Reads (segment.tokens ++ tokens) :=
  ⟨h.1, congrArg (segment.tokens ++ ·) h.2⟩

theorem reads_nil : (parseChars (fuel + 1) []).Reads [] := ⟨rfl, rfl⟩

-- A character joins the text in front of the next brace, so the fuel is the same on both sides.
theorem reads_char {c : Char} (plain : isBrace c = false)
    (h : (parseChars (fuel + 1) cs).Reads tokens) :
    (parseChars (fuel + 1) (c :: cs)).Reads (.inl c :: tokens) := by
  have htake : (c :: cs).takeWhile (fun c => !isBrace c) =
      c :: cs.takeWhile fun c => !isBrace c := List.takeWhile_cons_of_pos (by rw [plain]; rfl)
  have hdrop : (c :: cs).dropWhile (fun c => !isBrace c) =
      cs.dropWhile fun c => !isBrace c := List.dropWhile_cons_of_pos (by rw [plain]; rfl)
  cases hrest : cs.dropWhile fun c => !isBrace c with
  | nil =>
    simp only [parseChars, htake, hdrop, hrest] at h ⊢
    obtain ⟨_, rfl⟩ := h
    cases cs.takeWhile fun c => !isBrace c with
    | nil => exact ⟨rfl, rfl⟩
    | cons d text => exact ⟨rfl, rfl⟩
  | cons d more =>
    cases more with
    | nil =>
      simp only [parseChars, hrest] at h
      cases h.1
    | cons e more =>
      simp only [parseChars, htake, hdrop, hrest] at h ⊢
      split
      · rename_i heq
        rw [if_pos heq] at h
        exact ⟨h.1, congrArg (Sum.inl c :: ·) h.2⟩
      · rename_i hne
        rw [if_neg hne] at h
        split
        · rename_i heq
          rw [if_pos heq] at h
          cases h.1
        · rename_i hopen
          rw [if_neg hopen] at h
          cases hscan : scanField (e :: more) with
          | error defect =>
            simp only [hscan] at h
            cases h.1
          | ok found =>
            simp only [hscan] at h ⊢
            exact ⟨h.1, congrArg (Sum.inl c :: ·) h.2⟩

theorem reads_doubled {c : Char} (brace : isBrace c = true)
    (h : (parseChars fuel cs).Reads tokens) :
    (parseChars (fuel + 1) (c :: c :: cs)).Reads (.inl c :: tokens) := by
  have htake : (c :: c :: cs).takeWhile (fun c => !isBrace c) = [] :=
    List.takeWhile_cons_of_neg (by rw [brace]; exact Bool.false_ne_true)
  have hdrop : (c :: c :: cs).dropWhile (fun c => !isBrace c) = c :: c :: cs :=
    List.dropWhile_cons_of_neg (by rw [brace]; exact Bool.false_ne_true)
  rw [parseChars, htake, hdrop]
  simp only [beq_self_eq_true, if_true]
  exact h.after (.literal [c])

theorem scanName_plain (cs rest : List Char) (plain : cs.all isNameChar = true) :
    scanName false (cs ++ '\x7d' :: rest) = .ok (cs, .close, rest) := by
  induction cs with
  | nil => rfl
  | cons c cs ih =>
    rw [List.all_cons, Bool.and_eq_true] at plain
    simp only [isNameChar, isBrace, Bool.and_eq_true, Bool.not_eq_true', Bool.or_eq_false_iff,
      bne_iff_ne, beq_eq_false_iff_ne] at plain
    obtain ⟨⟨⟨⟨⟨⟨hopen, hclose⟩, hdot⟩, hindex⟩, hconversion⟩, hformat⟩, hrest⟩ := plain
    rw [List.cons_append, scanName]
    simp [hopen, hclose, hindex, hconversion, hformat, ih hrest]

theorem reads_name {name : List Char} (plain : name.all isNameChar = true)
    (h : (parseChars fuel cs).Reads tokens) :
    (parseChars (fuel + 1) ('\x7b' :: (name ++ '\x7d' :: cs))).Reads
      (.inr { path := name } :: tokens) := by
  have hfield : scanField (name ++ '\x7d' :: cs) = .ok ({ path := name }, cs) := by
    rw [scanField, scanName_plain name cs plain]
    rfl
  obtain ⟨d, rest, hhead, hd⟩ :
      ∃ d rest, name ++ '\x7d' :: cs = d :: rest ∧ ('\x7b' == d) = false := by
    cases name with
    | nil => exact ⟨_, _, rfl, rfl⟩
    | cons d rest =>
      refine ⟨d, _, rfl, beq_false_of_ne ?_⟩
      rintro rfl
      cases plain
  rw [hhead] at hfield ⊢
  have hparse : parseChars (fuel + 1) ('\x7b' :: d :: rest) =
      ((parseChars fuel cs).after (.field { path := name })).after (.literal []) := by
    rw [parseChars]
    simp [hfield, hd, isBrace]
  rw [hparse]
  exact (h.after (.field _)).after (.literal [])

/-- A template is read as the pieces that it is written with. -/
theorem reads_pieces (pieces : List Piece) (fuel : Nat)
    (enough : (pieces.flatMap Piece.source).length < fuel) :
    (parseChars fuel (pieces.flatMap Piece.source)).Reads (pieces.map Piece.token) := by
  induction pieces generalizing fuel with
  | nil =>
    obtain ⟨fuel, rfl⟩ := Nat.exists_eq_add_one_of_ne_zero (Nat.ne_zero_of_lt enough)
    exact reads_nil
  | cons piece rest ih =>
    obtain ⟨fuel, rfl⟩ := Nat.exists_eq_add_one_of_ne_zero (Nat.ne_zero_of_lt enough)
    rw [List.flatMap_cons, List.length_append] at enough
    rw [List.flatMap_cons, List.map_cons]
    -- Braces and names use up one unit of fuel, and each has at least one character.
    have hrest : (rest.flatMap Piece.source).length < fuel := by
      have := piece.source_length_pos
      omega
    cases piece with
    | char c plain => exact reads_char plain (ih _ (Nat.lt_succ_of_lt hrest))
    | openBrace => exact reads_doubled rfl (ih _ hrest)
    | closeBrace => exact reads_doubled rfl (ih _ hrest)
    | name cs plain =>
      simp only [Piece.source, List.cons_append, List.append_assoc, List.nil_append]
      exact reads_name plain (ih _ hrest)

end Reading

section Filling
variable {fields : Fields} {template : String}

theorem render_eq_ok_iff {text : String} : render template fields = .ok text ↔
    (parse template).defect = none ∧
      ∃ parts, (parse template).segments.mapM (fill fields 1) = .ok parts ∧
        String.join parts = text := by
  conv_lhs => rw [← String.ofList_toList (s := template), render_ofList]
  change _ ↔ (parseChars _ _).defect = none ∧ _
  constructor
  · intro h
    obtain ⟨parts, hparts, h⟩ := bind_ok h
    split at h
    · cases h
    · rename_i hdefect
      cases h
      exact ⟨hdefect, parts, hparts, rfl⟩
  · rintro ⟨hdefect, parts, hparts, rfl⟩
    change (parseChars _ _).segments.mapM _ = _ at hparts
    rw [hparts, hdefect]
    rfl

/-- A field is filled from a value of its name, whatever follows the name. -/
theorem lookup_of_fill {f : Field} {depth : Nat} {text : String}
    (h : fill fields depth (.field f) = .ok text) : ∃ v, fields.lookup f.base = some v := by
  obtain ⟨_, h, _⟩ := bind_ok h
  obtain ⟨_, _, h⟩ := bind_ok h
  split at h
  · cases h
  · split at h
    · cases h
    · rename_i v hlookup
      exact ⟨v, hlookup⟩

theorem mapM_eq_ok_map {ε α β : Type} {f : α → Except ε β} {g : α → β} {xs : List α}
    (h : ∀ x ∈ xs, f x = .ok (g x)) : xs.mapM f = .ok (xs.map g) := by
  induction xs with
  | nil => rfl
  | cons x rest ih =>
    obtain ⟨hx, hrest⟩ := List.forall_mem_cons.mp h
    rw [List.mapM_cons, hx, ih hrest]
    rfl

/-- The characters that a token becomes if names have the given texts. -/
def Token.shown (text : String → String) : Token → List Char :=
  Sum.elim (fun c => [c]) fun f => (text (String.ofList f.path)).toList

/-- The text that a segment becomes if names have the given texts. -/
def Segment.shown (text : String → String) : Segment → String
  | literal text => String.ofList text
  | field f => text (String.ofList f.path)

theorem Segment.toList_shown (text : String → String) (segment : Segment) :
    (segment.shown text).toList = segment.tokens.flatMap (Token.shown text) := by
  cases segment with
  | literal cs => simp [shown, tokens, Token.shown, List.flatMap_map]
  | field f => simp [shown, tokens, Token.shown]

theorem Piece.shown_token (text : String → String) (piece : Piece) :
    Token.shown text piece.token = piece.shown text := by
  cases piece <;> rfl

section Pieces
variable {pieces : List Piece} {p : Parsed} (reads : p.Reads (pieces.map Piece.token))
include reads

theorem Parsed.Reads.field_mem_iff {f : Field} :
    .field f ∈ p.segments ↔ ∃ cs plain, .name cs plain ∈ pieces ∧ { path := cs } = f := by
  have htoken : .field f ∈ p.segments ↔ .inr f ∈ pieces.map Piece.token := by
    rw [← reads.2, List.mem_flatMap]
    constructor
    · intro h
      exact ⟨_, h, List.mem_singleton_self _⟩
    · rintro ⟨segment, hsegment, hf⟩
      cases segment with
      | literal text => simp [Segment.tokens] at hf
      | field g =>
        cases List.mem_singleton.mp hf
        exact hsegment
  rw [htoken, List.mem_map]
  constructor
  · rintro ⟨piece, hpiece, heq⟩
    cases piece with
    | name cs plain => exact ⟨cs, plain, hpiece, Sum.inr.inj heq⟩
    | _ => cases heq
  · rintro ⟨cs, plain, hpiece, rfl⟩
    exact ⟨_, hpiece, rfl⟩

/-- If every name can be filled, then so can the whole, and each piece becomes what it shows. -/
theorem Parsed.Reads.fill {text : String → String}
    (filled : ∀ cs plain, .name cs plain ∈ pieces →
      fill fields 1 (.field { path := cs }) = .ok (text (String.ofList cs))) :
    ∃ parts, p.segments.mapM (Template.fill fields 1) = .ok parts ∧
      String.join parts = String.ofList (pieces.flatMap (Piece.shown text)) := by
  have hfill : ∀ segment ∈ p.segments,
      Template.fill fields 1 segment = .ok (segment.shown text) := by
    intro segment hsegment
    cases segment with
    | literal cs => rfl
    | field f =>
      obtain ⟨cs, plain, hpiece, rfl⟩ := reads.field_mem_iff.mp hsegment
      exact filled cs plain hpiece
  refine ⟨_, mapM_eq_ok_map hfill, String.toList_injective ?_⟩
  calc (String.join (p.segments.map (Segment.shown text))).toList
      = p.segments.flatMap fun segment => segment.tokens.flatMap (Token.shown text) := by
        simp only [String.toList_join, List.flatMap_map, Segment.toList_shown]
    _ = (pieces.map Piece.token).flatMap (Token.shown text) := by
        rw [← reads.2, List.flatMap_assoc]
    _ = (String.ofList (pieces.flatMap (Piece.shown text))).toList := by
        simp only [List.flatMap_map, Piece.shown_token, String.toList_ofList]

end Pieces

end Filling

theorem Field.base_of_plain {cs : List Char} (plain : cs.all isNameChar = true) :
    ({ path := cs } : Field).base = String.ofList cs := by
  have hname : (cs.takeWhile fun c => c != '.' && c != '[') = cs := by
    refine List.takeWhile_eq_self_iff.mpr fun c hc => ?_
    have hc := List.all_eq_true.mp plain c hc
    simp only [isNameChar, Bool.and_eq_true] at hc ⊢
    exact ⟨hc.1.1.1.2, hc.1.1.2⟩
  rw [base, hname]

end Template

theorem Template.Segment.base?_eq_some_iff {segment : Segment} {name : String} :
    segment.base? = some name ↔ ∃ f, segment = .field f ∧ f.base = name := by
  cases segment with
  | literal text => exact iff_of_false nofun nofun
  | field f => simp [base?]

theorem Pack.checkTemplate_ok_iff {id message : String} {values : List String} :
    checkTemplate id message values = .ok () ↔ (Template.parse message).defect = none ∧
      ∀ f, .field f ∈ (Template.parse message).segments → f.base ∈ values ++ renderFields := by
  have hknown (name : String) :
      ¬(!renderFields.contains name && !values.contains name) = true ↔
        name ∈ values ++ renderFields := by
    simp only [Bool.and_eq_true, Bool.not_eq_true', ← Bool.not_eq_true, List.contains_iff_mem,
      List.mem_append]
    tauto
  rw [checkTemplate, Template.fieldNames]
  cases (Template.parse message).defect with
  | some defect => exact iff_of_false nofun nofun
  | none =>
    simp only [true_and]
    split
    · rename_i hunknown
      refine iff_of_true rfl fun f hf => (hknown f.base).mp ?_
      exact List.filter_eq_nil_iff.mp (List.isEmpty_iff.mp hunknown) f.base
        (List.mem_filterMap.mpr ⟨_, hf, rfl⟩)
    · rename_i hunknown
      refine iff_of_false nofun fun hnames => hunknown ?_
      refine List.isEmpty_iff.mpr (List.filter_eq_nil_iff.mpr fun name hname => ?_)
      obtain ⟨segment, hsegment, hbase⟩ := List.mem_filterMap.mp hname
      obtain ⟨f, rfl, rfl⟩ := Template.Segment.base?_eq_some_iff.mp hbase
      exact (hknown f.base).mpr (hnames f hsegment)

theorem SourceUnit.site?_of_mem_nodes {unit : SourceUnit} {node : Node} (h : node ∈ unit.nodes) :
    ∃ site, node.site? = some site := by
  cases holds_of_mem_nodes h with
  | declaration _ => exact ⟨_, rfl⟩
  | mark _ _ => exact ⟨_, rfl⟩
  | doc _ _ => exact ⟨_, rfl⟩

theorem Template.AreTexts.mem_of_lookup {names : List String} {values : Fields}
    (h : AreTexts names values) {name : String} {v : Value}
    (hlookup : values.lookup name = some v) : name ∈ names ∧ v = .str v.ownText := by
  obtain ⟨before, after, hvalues, _⟩ := List.lookup_eq_some_iff.mp hlookup
  have hmem : (name, v) ∈ values := by simp [hvalues]
  obtain ⟨s, rfl⟩ : ∃ s, v = .str s := h.2 _ hmem
  refine ⟨?_, rfl⟩
  rw [← h.1]
  exact List.mem_map_of_mem hmem

theorem Template.reads_of_source {template : String} {pieces : List Piece}
    (h : template.toList = pieces.flatMap Piece.source) :
    (parse template).Reads (pieces.map Piece.token) := by
  rw [parse, h]
  exact reads_pieces pieces _ (Nat.lt_succ_self _)

/-- A simple template is filled with the texts of its names. -/
theorem Template.render_pieces {names : List String} {fields : Fields}
    (texts : AreTexts names fields)
    (plain : ∀ name ∈ names, ({ path := name.toList } : Field).isPlain = true)
    {template : String} {pieces : List Piece}
    (hpieces : template.toList = pieces.flatMap Piece.source)
    (hnames : ∀ name ∈ Piece.names pieces, name ∈ names) :
    ∃ text : String → String,
      (∀ name ∈ Piece.names pieces, fields.lookup name = some (.str (text name))) ∧
      render template fields = .ok (String.ofList (pieces.flatMap (Piece.shown text))) := by
  let text (name : String) : String := (fields.lookup name).elim "" Value.ownText
  have htext : ∀ name ∈ Piece.names pieces, fields.lookup name = some (.str (text name)) := by
    intro name hname
    obtain ⟨v, _, hlookup, _⟩ := texts.supplied name (hnames name hname)
    simp only [text, hlookup, Option.elim_some]
    rw [← (texts.mem_of_lookup hlookup).2]
  have hreads := reads_of_source hpieces
  refine ⟨text, htext, render_eq_ok_iff.mpr ⟨hreads.1, hreads.fill fun cs hcs hpiece => ?_⟩⟩
  have hname := Piece.mem_names.mpr ⟨cs, hcs, hpiece, rfl⟩
  have hplain := plain _ (hnames _ hname)
  rw [String.toList_ofList] at hplain
  exact fill_plain hplain (htext _ hname) rfl

/-- A simple template is accepted if the rule can give a value for each of its names. -/
theorem Pack.checkTemplate_pieces_iff {id template : String} {values : List String}
    {pieces : List Template.Piece}
    (hpieces : template.toList = pieces.flatMap Template.Piece.source) :
    checkTemplate id template values = .ok () ↔
      ∀ name ∈ Template.Piece.names pieces, name ∈ values ++ renderFields := by
  have hreads := Template.reads_of_source hpieces
  rw [checkTemplate_ok_iff, and_iff_right hreads.1]
  constructor
  · intro h name hname
    obtain ⟨cs, plain, hpiece, rfl⟩ := Template.Piece.mem_names.mp hname
    rw [← Template.Field.base_of_plain plain]
    exact h _ (hreads.field_mem_iff.mpr ⟨cs, plain, hpiece, rfl⟩)
  · intro h f hf
    obtain ⟨cs, plain, hpiece, rfl⟩ := hreads.field_mem_iff.mp hf
    rw [Template.Field.base_of_plain plain]
    exact h _ (Template.Piece.mem_names.mpr ⟨cs, plain, hpiece, rfl⟩)

namespace Rule

/-- The value of a name in the message for a match: what the match gives for it, and else what the
rule and the node do. -/
def valueOf (r : Rule) (node : Node) (unit : SourceUnit) (m : Match) (name : String) :
    Option Value :=
  (m.values.lookup name).or <|
    if name = "rule_id" then some (.str r.id)
    else if name = "name" then some (.str node.name)
    else if name = "kind" then some (.str node.kindText)
    else if name = "qualified_name" then node.site?.map fun site => .str (unit.qualifiedName site)
    else none

theorem lookup_eq_valueOf (r : Rule) (node : Node) (unit : SourceUnit) (m : Match) (name : String) :
    (m.values ++ nodeFields (.str r.id) node unit).lookup name = r.valueOf node unit m name := by
  rw [List.lookup_append, valueOf, nodeFields]
  congr 1
  cases node.site? <;> simp only [List.lookup_cons, List.lookup_nil, Option.map, Option.toList,
    List.append_nil, List.cons_append, List.nil_append, beq_eq_decide] <;> grind

end Rule

namespace Check

/-- The names that messages may use are plain. -/
theorem listed_names_plain : ∀ check ∈ catalogue, ∀ name ∈ check.values ++ renderFields,
    ({ path := name.toList } : Template.Field).isPlain = true := by
  decide +kernel

section Match
variable {check : Check} (listed : check ∈ catalogue) {unit : SourceUnit} {node : Node}
variable (hnode : node ∈ unit.nodes) {context : Context} {m : Match}
variable (hit : check.inspection node context = .ok (some m))
include listed hnode hit

theorem texts_of_match (id : String) : Template.AreTexts (check.values ++ renderFields)
    (m.values ++ nodeFields (.str id) node unit) := by
  obtain ⟨site, hsite⟩ := SourceUnit.site?_of_mem_nodes hnode
  exact (reports_listed node context listed m hit).1.append (nodeFields_texts_of_site hsite id unit)

theorem accepted_of_render {id template text : String}
    (h : Template.render template (m.values ++ nodeFields (.str id) node unit) = .ok text) :
    Pack.checkTemplate id template check.values = .ok () := by
  obtain ⟨hdefect, parts, hparts, _⟩ := Template.render_eq_ok_iff.mp h
  refine Pack.checkTemplate_ok_iff.mpr ⟨hdefect, fun f hf => ?_⟩
  obtain ⟨part, hpart⟩ := mapM_ok_iff.mp ⟨parts, hparts⟩ _ hf
  obtain ⟨v, hlookup⟩ := Template.lookup_of_fill hpart
  exact ((texts_of_match listed hnode hit id).mem_of_lookup hlookup).1

/-- The check of a message agrees with the filling of it. If the message of a rule is filled for
some match of a check, then it is accepted for the check. If it consists of plain names, doubled
braces and other text, and is accepted, then it is filled for every match on a node of a unit: each
name becomes the text of its value, and each doubled brace a single one. -/
theorem checkTemplate_agrees_with_render (r : Rule) :
    ((∃ text, r.render node unit m.values = .ok text) →
      Pack.checkTemplate r.id r.message check.values = .ok ()) ∧
    ∀ pieces : List Template.Piece, r.message.toList = pieces.flatMap Template.Piece.source →
      Pack.checkTemplate r.id r.message check.values = .ok () →
      ∃ text : String → String,
        (∀ name ∈ Template.Piece.names pieces,
          ∃ v, r.valueOf node unit m name = some v ∧ v.text = .ok (text name)) ∧
        r.render node unit m.values =
          .ok (String.ofList (pieces.flatMap (Template.Piece.shown text))) := by
  refine ⟨fun ⟨text, h⟩ => accepted_of_render listed hnode hit h, fun pieces hpieces accepted => ?_⟩
  have hnames := (Pack.checkTemplate_pieces_iff hpieces).mp accepted
  obtain ⟨text, hvalues, hrender⟩ := Template.render_pieces (texts_of_match listed hnode hit r.id)
    (listed_names_plain check listed) hpieces hnames
  refine ⟨text, fun name hname => ⟨.str (text name), ?_, rfl⟩, hrender⟩
  rw [← r.lookup_eq_valueOf, hvalues name hname]

end Match

/-- A rule on handlers that do nothing, with a doubled brace around a name. -/
def swallowing : Rule where
  id := "exceptions/swallowed"
  category := .exceptionHandling
  target := some .method
  severity := .warning
  message := "\x7b\x7b\x7bcaught\x7d\x7d\x7d in \x7bqualified_name\x7d"
  predicate := some (Inspection.toPredicate emptyHandler)

def swallowingPieces : List Template.Piece :=
  [.openBrace, .name "caught".toList rfl, .closeBrace, .char ' ' rfl, .char 'i' rfl, .char 'n' rfl,
    .char ' ' rfl, .name "qualified_name".toList rfl]

def handlerCheck : Check where
  name := "empty_handler"
  inspection := emptyHandler
  values := ["caught"]

/-- The message names the exception of the match and the method of the node. -/
theorem checkTemplate_agrees_with_render_swallowing :
    ∃ m, handlerCheck ∈ catalogue ∧ .declaration handlingSite ∈ (handlingUnit 20).nodes ∧
      handlerCheck.inspection (.declaration handlingSite) ⟨handlingUnit 20, [], false⟩ =
        .ok (some m) ∧
      swallowing.message.toList = swallowingPieces.flatMap Template.Piece.source ∧
      Pack.checkTemplate swallowing.id swallowing.message handlerCheck.values = .ok () ∧
      swallowing.render (.declaration handlingSite) (handlingUnit 20) m.values =
        .ok "\x7bException\x7d in T.run" := by
  have listed : handlerCheck ∈ catalogue := by simp [catalogue, handlerCheck]
  have hnode : .declaration handlingSite ∈ (handlingUnit 20).nodes := by
    rw [SourceUnit.nodes, SourceUnit.walk_handlingUnit]
    simp [Site.nodes]
  have hit : handlerCheck.inspection (.declaration handlingSite) ⟨handlingUnit 20, [], false⟩ =
      .ok (some ⟨some (.ofInts 2 8 2 12), [("caught", .str "Exception")]⟩) := rfl
  have hpieces : swallowing.message.toList = swallowingPieces.flatMap Template.Piece.source := by
    decide
  have accepted : Pack.checkTemplate swallowing.id swallowing.message handlerCheck.values =
      .ok () := rfl
  refine ⟨_, listed, hnode, hit, hpieces, accepted, ?_⟩
  obtain ⟨text, hvalues, hrender⟩ :=
    (checkTemplate_agrees_with_render listed hnode hit swallowing).2 _ hpieces accepted
  obtain ⟨_, ⟨⟩, hcaught⟩ := hvalues "caught" (by decide)
  obtain ⟨_, ⟨⟩, hqualified⟩ := hvalues "qualified_name" (by decide)
  rw [hrender, swallowingPieces]
  simp only [List.flatMap_cons, List.flatMap_nil, Template.Piece.shown, String.ofList_toList,
    ← Except.ok.inj hcaught, ← Except.ok.inj hqualified]
  rfl

end Check

end Conformance
