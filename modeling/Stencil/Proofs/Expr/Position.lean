import Stencil.Expr.Parser

/-!
# Where tokens and errors are

A token starts where its characters are read, so the offsets of tokens are increasing boundaries of
characters (`placed_of_tokens`). A reader goes on where another one has stopped, and an error is
about the next token there, or about the end of the text (`Within`). So a text is either parsed or
there is an error, and this points to what cannot be a token, to a token, or to the end
(`parse_points`).
-/

namespace Stencil

/-! ## Offsets and boundaries -/

namespace Text

variable {text : String} {before after : List Char}

/-- A string takes the bytes of its characters. -/
theorem utf8ByteSize_ofList (cs : List Char) : (String.ofList cs).utf8ByteSize = utf8Length cs := by
  induction cs with
  | nil => rfl
  | cons c cs ih =>
    rw [utf8Length_cons, ← ih]
    simp [String.ofList_cons]

theorem utf8ByteSize_eq (text : String) : text.utf8ByteSize = utf8Length text.toList := by
  rw [← utf8ByteSize_ofList, String.ofList_toList]

/-- Behind every part at the front of a text there is a boundary. -/
theorem isValid_utf8Length (h : text.toList = before ++ after) :
    String.Pos.Raw.IsValid text ⟨utf8Length before⟩ := by
  refine String.Pos.Raw.isValid_iff_exists_append.2
    ⟨String.ofList before, String.ofList after, ?_, ?_⟩
  · rw [← String.ofList_append, ← h, String.ofList_toList]
  · rw [← utf8ByteSize_ofList]
    rfl

end Text

namespace Expr

variable {text : String} {p q : Nat} {c : Char} {before cs rest : List Char} {t : Token}
  {ts : List Token} {e : SyntaxError}

/-- In a text that starts at one offset, the rest of it starts at another one. -/
def Reaches (p : Nat) (cs : List Char) (q : Nat) (rest : List Char) : Prop :=
  ∃ before, cs = before ++ rest ∧ q = p + Text.utf8Length before

namespace Reaches

theorem refl (p : Nat) (cs : List Char) : Reaches p cs p cs := ⟨[], rfl, rfl⟩

/-- What is reached behind some characters is reached from in front of them. -/
theorem behind (h : Reaches (p + Text.utf8Length before) cs q rest) :
    Reaches p (before ++ cs) q rest := by
  obtain ⟨more, rfl, rfl⟩ := h
  refine ⟨before ++ more, (List.append_assoc ..).symm, ?_⟩
  rw [Text.utf8Length_append, Nat.add_assoc]

/-- One only gets further. -/
theorem le (h : Reaches p cs q rest) : p ≤ q := by
  obtain ⟨before, -, rfl⟩ := h
  exact Nat.le_add_right ..

/-- Wherever one comes from the start of a text is a boundary between its characters. -/
theorem isValid (h : Reaches 0 text.toList q rest) : String.Pos.Raw.IsValid text ⟨q⟩ := by
  obtain ⟨before, hcs, rfl⟩ := h
  rw [Nat.zero_add]
  exact Text.isValid_utf8Length hcs

/-- Where there is a character left, the text is not at its end. -/
theorem lt_size (h : Reaches 0 text.toList q (c :: rest)) : q < text.utf8ByteSize := by
  obtain ⟨before, hcs, rfl⟩ := h
  rw [Text.utf8ByteSize_eq, hcs, Text.utf8Length_append, Text.utf8Length_cons]
  have := c.utf8Size_pos
  omega

end Reaches

/-! ## Tokens -/

/-- In a text that starts at an offset, a token is read where it is said to be. -/
def ReadAt (p : Nat) (cs : List Char) (t : Token) : Prop :=
  ∃ c rest written more, Reaches p cs t.position (c :: rest) ∧ Text.isBlank c = false ∧
    takeToken c rest = .ok (t.kind, written, more)

/-- Which characters what is rejected may start with. -/
def Rejects (c : Char) : SyntaxError.Reason → Prop
  | .badNumber _ | .badInteger _ => c.isDigit = true
  | .unclosedText => c = '"' ∨ c = '\''
  | .unexpectedCharacter x => x = c
  | _ => False

/-- A number that cannot be read is rejected for its first digit. -/
theorem rejects_of_ofNumber {reason : SyntaxError.Reason} {isFloat : Bool}
    (h : Token.Kind.ofNumber isFloat cs = .error reason) (hc : c.isDigit = true) :
    Rejects c reason := by
  unfold Token.Kind.ofNumber at h
  dsimp only at h
  split at h
  all_goals
    split at h
    · simp at h
    · obtain rfl := Except.error.inj h
      exact hc

/-- The reader of tokens rejects a character only for what it is, or for what comes behind it. -/
theorem rejects_of_takeToken {reason : SyntaxError.Reason} (h : takeToken c cs = .error reason) :
    Rejects c reason := by
  unfold takeToken at h
  split at h
  · next hdigit =>
    split at h
    split at h
    · simp at h
    · next reason' hnumber =>
      obtain rfl := Except.error.inj h
      exact rejects_of_ofNumber hnumber hdigit
  · split at h
    · simp at h
    · split at h
      · next hquote =>
        split at h
        · simp at h
        · obtain rfl := Except.error.inj h
          exact hquote
      · split at h
        · simp at h
        · simp at h
        · obtain rfl := Except.error.inj h
          rfl

/-- In a text that starts at an offset, no token can be read where an error is said to be. -/
def RejectedAt (p : Nat) (cs : List Char) (e : SyntaxError) : Prop :=
  ∃ c rest, Reaches p cs e.position (c :: rest) ∧ Text.isBlank c = false ∧
    takeToken c rest = .error e.reason ∧ Rejects c e.reason

theorem ReadAt.behind (h : ReadAt (p + Text.utf8Length before) cs t) :
    ReadAt p (before ++ cs) t := by
  obtain ⟨c, rest, written, more, hr, hc, ht⟩ := h
  exact ⟨c, rest, written, more, hr.behind, hc, ht⟩

theorem RejectedAt.behind (h : RejectedAt (p + Text.utf8Length before) cs e) :
    RejectedAt p (before ++ cs) e := by
  obtain ⟨c, rest, hr, hc, ht⟩ := h
  exact ⟨c, rest, hr.behind, hc, ht⟩

/-- A token is no earlier than where the reading began. -/
theorem ReadAt.le (h : ReadAt p cs t) : p ≤ t.position := by
  obtain ⟨_, _, _, _, hr, -, -⟩ := h
  exact hr.le

/-- What is rejected is rejected at a boundary. -/
theorem RejectedAt.isValid (h : RejectedAt 0 text.toList e) :
    String.Pos.Raw.IsValid text ⟨e.position⟩ := by
  obtain ⟨_, _, hr, -⟩ := h
  exact hr.isValid

/-- Tokens that were read stand one behind the other, each where it can be read again. -/
theorem placed_of_tokensFrom (h : tokensFrom p cs = .ok ts) :
    (ts.Pairwise fun t u => t.position < u.position) ∧ ∀ t ∈ ts, ReadAt p cs t := by
  fun_induction tokensFrom p cs generalizing ts with
  | case1 =>
    obtain rfl := Except.ok.inj h
    simp
  | case2 p c cs hc ih =>
    obtain ⟨hlt, hread⟩ := ih h
    refine ⟨hlt, fun t ht => ?_⟩
    have hat : ReadAt (p + Text.utf8Length [c]) cs t := hread t ht
    exact hat.behind
  | case3 => simp at h
  | case4 => simp at h
  | case5 p c cs hc kind written rest htake tokens htokens ih =>
    obtain rfl := Except.ok.inj h
    obtain ⟨hlt, hread⟩ := ih htokens
    refine ⟨List.pairwise_cons.2 ⟨fun t ht => ?_, hlt⟩, List.forall_mem_cons.2 ⟨?_, fun t ht => ?_⟩⟩
    · have hle := (hread t ht).le
      have hpos := c.utf8Size_pos
      rw [Text.utf8Length_cons] at hle
      show p < t.position
      omega
    · exact ⟨c, cs, written, rest, .refl p _, by simpa using hc, htake⟩
    · rw [← takeToken_append htake, ← List.cons_append]
      exact (hread t ht).behind

/-- If there is an error, no token can be read where it points to. -/
theorem rejectedAt_of_tokensFrom (h : tokensFrom p cs = .error e) : RejectedAt p cs e := by
  fun_induction tokensFrom p cs generalizing e with
  | case1 => simp at h
  | case2 p c cs hc ih =>
    have hat : RejectedAt (p + Text.utf8Length [c]) cs e := ih h
    exact hat.behind
  | case3 p c cs hc reason htake =>
    obtain rfl := Except.error.inj h
    exact ⟨c, cs, .refl p _, by simpa using hc, htake, rejects_of_takeToken htake⟩
  | case4 p c cs hc kind written rest htake e' he ih =>
    obtain rfl := Except.error.inj h
    rw [← takeToken_append htake, ← List.cons_append]
    exact (ih he).behind
  | case5 => simp at h

/-- The tokens of a text stand one behind the other at boundaries in front of its end, each where
its characters are read. -/
structure Placed (text : String) (ts : List Token) : Prop where
  increasing : ts.Pairwise fun t u => t.position < u.position
  isValid : ∀ t ∈ ts, String.Pos.Raw.IsValid text ⟨t.position⟩
  lt_size : ∀ t ∈ ts, t.position < text.utf8ByteSize
  readAt : ∀ t ∈ ts, ReadAt 0 text.toList t

/-- The tokens of a text stand where the text has them. -/
theorem placed_of_tokens (h : tokens text = .ok ts) : Placed text ts := by
  obtain ⟨hlt, hread⟩ := placed_of_tokensFrom h
  refine ⟨hlt, fun t ht => ?_, fun t ht => ?_, hread⟩
  all_goals obtain ⟨_, _, _, _, hr, -, -⟩ := hread t ht
  · exact hr.isValid
  · exact hr.lt_size

/-! ## Readers -/

open Stencil.Expr.Parser

variable {α β : Type} {stop : Nat} {us r : List Token} {P : α → Prop} {Q : β → Prop}

/-- What is wrong with the tokens that come next, if this is the reason of an error. -/
def Explains (r : List Token) : SyntaxError.Reason → Prop
  | .unexpectedToken kind => ∃ t ∈ r.head?, t.kind = kind
  | .expectedToken kind => ∀ t ∈ r.head?, t.kind ≠ kind
  | .endOfText => r = []
  | .expectedAttribute => ∀ t ∈ r.head?, ∀ n, t.kind ≠ .name n
  | .positionalAfterKeyword => keyword? r = none
  | .tooDeep => True
  | _ => False

/-- An error is about the next of the tokens that are left at some place, or about the end of the
text if none is left, and its reason is wrong with what comes there. -/
def PointsInto (stop : Nat) (ts : List Token) (e : SyntaxError) : Prop :=
  ∃ r, r <:+ ts ∧ e.position = here stop r ∧ Explains r e.reason

/-- What is read from tokens is like this, or there is an error that is about one of them. -/
def Within (stop : Nat) (ts : List Token) (P : α → Prop) : Except SyntaxError α → Prop
  | .ok a => P a
  | .error e => PointsInto stop ts e

/-- What is left of tokens is the end of them. -/
def Leaves (ts : List Token) {p : List Token → Prop} (x : α × { r : List Token // p r }) : Prop :=
  x.2.1 <:+ ts

/-- Whatever a reader is given, it leaves the end of it, or there is an error that is about it. -/
def Stays (stop : Nat) (reader : Reader α) : Prop := ∀ ts, Within stop ts (Leaves ts) (reader ts)

theorem within_here {reason : SyntaxError.Reason} (h : r <:+ ts) (he : Explains r reason) :
    Within stop ts P (.error ⟨here stop r, reason⟩) :=
  ⟨r, h, rfl, he⟩

/-- A reader after another one keeps what both of them keep. -/
theorem Within.bind {x : Except SyntaxError α} {f : α → Except SyntaxError β}
    (h : Within stop ts P x) (hf : ∀ a, P a → Within stop ts Q (f a)) :
    Within stop ts Q (x >>= f) := by
  cases x with
  | error e => exact h
  | ok a => exact hf a h

/-- What is about the end of some tokens is about the tokens. -/
theorem Within.mono {P' : α → Prop} {x : Except SyntaxError α} (h : Within stop us P x)
    (hu : us <:+ ts) (hP : ∀ a, P a → P' a) : Within stop ts P' x := by
  cases x with
  | error e =>
    obtain ⟨r, hr, he⟩ := h
    exact ⟨r, hr.trans hu, he⟩
  | ok a => exact hP a h

/-- What is read from the end of some tokens is read from these. -/
theorem Within.of_suffix {p : List Token → Prop}
    {x : Except SyntaxError (α × { r : List Token // p r })}
    (h : Within stop us (Leaves us) x) (hu : us <:+ ts) : Within stop ts (Leaves ts) x :=
  h.mono hu fun _ ha => ha.trans hu

/-- What is read is made into something else, and the rest is the same. -/
theorem Within.map {p q : List Token → Prop}
    {x : Except SyntaxError (α × { r : List Token // p r })}
    {f : α × { r : List Token // p r } → Except SyntaxError (β × { r : List Token // q r })}
    (h : Within stop ts (Leaves ts) x) (hf : ∀ a r h, ∃ b h', f (a, ⟨r, h⟩) = .ok (b, ⟨r, h'⟩)) :
    Within stop ts (Leaves ts) (x >>= f) := by
  refine h.bind fun ⟨a, r, hr⟩ ha => ?_
  obtain ⟨b, hb, hx⟩ := hf a r hr
  rw [hx]
  exact ha

theorem Stays.within {reader : Reader α} (h : Stays stop reader) (hr : r <:+ ts) :
    Within stop ts (Leaves ts) (reader r) :=
  (h r).of_suffix hr

/-! ## Single words -/

/-- A first token of another shape has another kind. -/
theorem kind_ne_of_head? {kind : Token.Kind} (h : ∀ p s, r ≠ ⟨kind, p⟩ :: s) :
    ∀ t ∈ r.head?, t.kind ≠ kind := by
  rintro ⟨_, p⟩ ht rfl
  obtain ⟨s, rfl⟩ := List.head?_eq_some_iff.1 ht
  exact h p s rfl

/-- A mark that is missing is missed at the next token. -/
theorem within_expectMark {mark : Mark} (hr : r <:+ ts) :
    Within stop ts (fun x => x.1 <:+ ts) (expectMark stop mark r) := by
  unfold expectMark
  split
  · next m p r =>
    split
    · exact (List.suffix_cons _ r).trans hr
    · next hm => exact within_here hr (by simpa [Explains] using hm)
  · next hne => exact within_here hr (kind_ne_of_head? (hne mark))

/-- So is an `else`. -/
theorem within_expectElse (hr : r <:+ ts) :
    Within stop ts (fun x => x.1 <:+ ts) (expectElse stop r) := by
  unfold expectElse
  split
  · exact (List.suffix_cons ..).trans hr
  · next hne => exact within_here hr (kind_ne_of_head? hne)

/-- If nothing may nest any deeper, the next token is to blame. -/
theorem within_enter {inner : Option Grammar} (hr : r <:+ ts) :
    Within stop ts (fun g => inner = some g) (enter stop inner r) := by
  cases inner with
  | none => exact within_here hr trivial
  | some g => exact rfl

/-- Behind an item stands a comma or the mark that closes, or the next token is to blame. -/
theorem within_separator {close : Mark} (hr : r <:+ ts) :
    Within stop ts (Leaves ts) (separator stop close r) := by
  unfold separator
  split
  · exact (List.suffix_cons ..).trans hr
  · exact (within_expectMark hr).bind fun x hx => hx

/-- Behind an item something goes on with what comes next, whether this is another item or not. -/
theorem within_separated {close : Mark} {p : List Token → Prop}
    {f : Bool × Rest r → Except SyntaxError (β × { r : List Token // p r })} (hr : r <:+ ts)
    (hmore : ∀ s h, s <:+ ts → Within stop ts (Leaves ts) (f (true, ⟨s, h⟩)))
    (hlast : ∀ s h, s <:+ ts → Within stop ts (Leaves ts) (f (false, ⟨s, h⟩))) :
    Within stop ts (Leaves ts) (separator stop close r >>= f) :=
  (within_separator hr).bind fun
    | (true, ⟨s, h⟩), hs => hmore s h hs
    | (false, ⟨s, h⟩), hs => hlast s h hs

theorem suffix_of_compareOp? {op : CompareOp} {x : Rest ts} (h : compareOp? ts = some (op, x)) :
    x.1 <:+ ts := by
  unfold compareOp? at h
  split at h
  all_goals cases h
  all_goals first
    | exact List.suffix_cons ..
    | exact (List.suffix_cons ..).trans (List.suffix_cons ..)

theorem suffix_of_keyword? {n : String} {x : Rest ts} (h : keyword? ts = some (n, x)) :
    x.1 <:+ ts := by
  unfold keyword? at h
  split at h
  · cases h
    exact (List.suffix_cons ..).trans (List.suffix_cons ..)
  · simp at h

theorem suffix_of_when? {x : Rest ts} (h : when? ts = some x) : x.1 <:+ ts := by
  unfold when? at h
  split at h
  · cases h
    exact List.suffix_cons ..
  · simp at h

/-- Strings in a row are passed over one by one. -/
theorem suffix_moreText (ts : List Token) : (moreText ts).2.1 <:+ ts := by
  fun_induction moreText ts with
  | case1 s p ts more r hr hmore ih =>
    rw [hmore] at ih
    exact ih.trans (List.suffix_cons _ ts)
  | case2 => exact List.suffix_rfl

/-! ## Loops -/

section Loops

variable {operand item argument : Reader Expr} {join : Joiner}

/-- A row of operands leaves what its last operand leaves. -/
theorem Stays.chain (ho : Stays stop operand) (left : Expr) (ts : List Token) :
    Within stop ts (Leaves ts) (chain operand join left ts) := by
  fun_induction Parser.chain operand join left ts with
  | case1 => exact List.suffix_rfl
  | case2 => exact List.suffix_rfl
  | case3 left t ts f hf ih =>
    refine (ho.within (List.suffix_cons t ts)).bind fun ⟨right, r, hlt⟩ hr => ?_
    exact ((ih right r hlt).of_suffix hr).map fun _ _ _ => ⟨_, _, rfl⟩

theorem Stays.chained (ho : Stays stop operand) : Stays stop (chained operand join) := fun ts => by
  refine (ho ts).bind fun ⟨first, r, _⟩ hr => ?_
  exact ((ho.chain first r).of_suffix hr).map fun _ _ _ => ⟨_, _, rfl⟩

/-- So does a chain of comparisons. -/
theorem Stays.comparisons (ho : Stays stop operand) (ts : List Token) :
    Within stop ts (Leaves ts) (comparisons operand ts) := by
  fun_induction Parser.comparisons operand ts with
  | case1 => exact List.suffix_rfl
  | case2 ts op r _ hop ih =>
    refine (ho.within (suffix_of_compareOp? hop)).bind fun ⟨right, r', hlt⟩ hr => ?_
    exact ((ih r' hlt).of_suffix hr).map fun _ _ _ => ⟨_, _, rfl⟩

theorem Stays.compared (ho : Stays stop operand) : Stays stop (compared operand) := fun ts => by
  refine (ho ts).bind fun ⟨first, r, _⟩ hr => ?_
  exact ((ho.comparisons r).of_suffix hr).map fun _ _ _ => ⟨_, _, rfl⟩

/-- The items of a list leave what is behind its bracket. -/
theorem Stays.listItems (hi : Stays stop item) (ts : List Token) :
    Within stop ts (Leaves ts) (listItems stop item ts) := by
  fun_induction Parser.listItems stop item ts with
  | case1 p ts => exact List.suffix_cons _ ts
  | case2 ts _ ih =>
    refine (hi ts).bind fun ⟨e, r₁, h₁⟩ hr₁ => ?_
    refine within_separated hr₁ (fun r₂ h₂ hr₂ => ?_) fun _ _ hr₂ => hr₂
    exact ((ih r₁ h₁ r₂ h₂).of_suffix hr₂).map fun _ _ _ => ⟨_, _, rfl⟩

/-- The arguments of a call leave what is behind its parenthesis. An argument by place behind one by
name is an error about the argument itself. -/
theorem Stays.callArguments (ha : Stays stop argument) (keyworded : Bool) (ts : List Token) :
    Within stop ts (Leaves ts) (callArguments stop argument keyworded ts) := by
  fun_induction Parser.callArguments stop argument keyworded ts with
  | case1 _ p ts => exact List.suffix_cons _ ts
  | case2 _ ts _ n r _ hn ih =>
    refine (ha.within (suffix_of_keyword? hn)).bind fun ⟨e, r₁, h₁⟩ hr₁ => ?_
    refine within_separated hr₁ (fun r₂ h₂ hr₂ => ?_) fun _ _ hr₂ => hr₂
    exact ((ih r₁ h₁ r₂ h₂).of_suffix hr₂).map fun _ _ _ => ⟨_, _, rfl⟩
  | case3 _ _ hn => exact within_here List.suffix_rfl hn
  | case4 _ ts _ _ _ ih =>
    refine (ha ts).bind fun ⟨e, r₁, h₁⟩ hr₁ => ?_
    refine within_separated hr₁ (fun r₂ h₂ hr₂ => ?_) fun _ _ hr₂ => hr₂
    exact ((ih r₁ h₁ r₂ h₂).of_suffix hr₂).map fun _ _ _ => ⟨_, _, rfl⟩

end Loops

/-! ## Levels -/

/-- All readers of a nesting level stay with what they are given. -/
structure Parser.Grammar.Stays (stop : Nat) (g : Grammar) : Prop where
  conditional : Expr.Stays stop g.conditional
  disjunction : Expr.Stays stop g.disjunction
  negation : Expr.Stays stop g.negation
  signed : Expr.Stays stop g.signed

section Levels

variable {inner : Option Grammar} (hi : ∀ g, inner = some g → Grammar.Stays stop g)

include hi

/-- An operand by itself leaves the end of the tokens, if everything one level down does. -/
theorem stays_atom : Stays stop (atom stop inner) := fun ts => by
  unfold atom
  split
  case h_1 => exact within_here List.suffix_rfl rfl
  case h_4 p ts =>
    exact (suffix_moreText ts).trans (List.suffix_cons _ ts)
  case h_9 p ts =>
    have hts := List.suffix_cons ⟨.mark .leftParen, p⟩ ts
    refine (within_enter hts).bind fun g hg => ?_
    refine ((hi g hg).conditional.within hts).bind fun ⟨e, r, _⟩ hr => ?_
    exact (within_expectMark hr).bind fun _ hr' => hr'
  case h_10 p ts =>
    have hts := List.suffix_cons ⟨.mark .leftBracket, p⟩ ts
    refine (within_enter hts).bind fun g hg => ?_
    exact (((hi g hg).conditional.listItems ts).of_suffix hts).map fun _ _ _ => ⟨_, _, rfl⟩
  case h_11 kind p ts _ _ _ _ _ _ _ _ _ =>
    exact within_here (r := ⟨kind, p⟩ :: ts) List.suffix_rfl ⟨_, rfl, rfl⟩
  all_goals exact List.suffix_cons ..

/-- Fields, indexes and calls behind a value leave the end of the tokens. -/
theorem within_accesses (target : Expr) (ts : List Token) :
    Within stop ts (Leaves ts) (accesses stop inner target ts) := by
  fun_induction accesses stop inner target ts with
  | case1 target p field p' ts ih =>
    have hts := (List.suffix_cons ⟨.name field, p'⟩ ts).trans (List.suffix_cons ⟨.mark .dot, p⟩ _)
    exact (ih.of_suffix hts).map fun _ _ _ => ⟨_, _, rfl⟩
  | case2 _ p ts hne =>
    exact within_here (List.suffix_cons ..) fun t ht n => kind_ne_of_head? (hne n) t ht
  | case3 target p ts ih =>
    have hts := List.suffix_cons ⟨.mark .leftBracket, p⟩ ts
    refine (within_enter hts).bind fun g hg => ?_
    refine ((hi g hg).conditional.within hts).bind fun ⟨i, r, hlt⟩ hr => ?_
    refine (within_expectMark hr).bind fun ⟨r', hlt'⟩ hr' => ?_
    exact ((ih i r hlt r' hlt').of_suffix hr').map fun _ _ _ => ⟨_, _, rfl⟩
  | case4 target p ts ih =>
    have hts := List.suffix_cons ⟨.mark .leftParen, p⟩ ts
    refine (within_enter hts).bind fun g hg => ?_
    refine (((hi g hg).conditional.callArguments false ts).of_suffix hts).bind
      fun ⟨args, r, hlt⟩ hr => ?_
    exact ((ih args r hlt).of_suffix hr).map fun _ _ _ => ⟨_, _, rfl⟩
  | case5 => exact List.suffix_rfl

theorem stays_accessed : Stays stop (accessed stop inner) := fun ts => by
  refine (stays_atom hi ts).bind fun ⟨e, r, _⟩ hr => ?_
  exact ((within_accesses hi e r).of_suffix hr).map fun _ _ _ => ⟨_, _, rfl⟩

theorem stays_signed : Stays stop (signed stop inner) := fun ts => by
  unfold signed
  split
  case h_3 => exact stays_accessed hi _
  all_goals
    refine (within_enter (List.suffix_cons ..)).bind fun g hg => ?_
    exact ((hi g hg).signed.within (List.suffix_cons ..)).map fun _ _ _ => ⟨_, _, rfl⟩

theorem stays_negation : Stays stop (negation stop inner) := fun ts => by
  unfold negation
  split
  · refine (within_enter (List.suffix_cons ..)).bind fun g hg => ?_
    exact ((hi g hg).negation.within (List.suffix_cons ..)).map fun _ _ _ => ⟨_, _, rfl⟩
  · exact (stays_signed hi).chained.chained.compared _

theorem stays_disjunction : Stays stop (disjunction stop inner) :=
  (stays_negation hi).chained.chained

/-- The loosest level of the grammar, with a condition in the middle of an expression. -/
theorem stays_conditional : Stays stop (Parser.conditional stop inner) := fun ts => by
  refine (stays_disjunction hi ts).bind fun ⟨consequent, r, hlt⟩ hr => ?_
  dsimp only
  split
  · exact hr
  · next r₁ h₁ hwhen =>
    have hr₁ : r₁ <:+ ts := (suffix_of_when? hwhen).trans hr
    refine (within_enter hr₁).bind fun g hg => ?_
    refine ((hi g hg).disjunction.within hr₁).bind fun ⟨condition, r₂, _⟩ hr₂ => ?_
    refine (within_expectElse hr₂).bind fun ⟨r₃, _⟩ hr₃ => ?_
    exact ((hi g hg).conditional.within hr₃).map fun _ _ _ => ⟨_, _, rfl⟩

/-- If the grammar one level down stays within the tokens, so does the one above it. -/
theorem stays_above : Grammar.Stays stop (.above stop inner) :=
  ⟨stays_conditional hi, stays_disjunction hi, stays_negation hi, stays_signed hi⟩

end Levels

/-- However deeply expressions may nest, their grammar stays within the tokens. -/
theorem stays_ofDepth (stop depth : Nat) : Grammar.Stays stop (.ofDepth stop depth) := by
  induction depth with
  | zero => exact stays_above (by simp)
  | succ depth ih => exact stays_above (by simpa using ih)

/-- If there are tokens, an error is about one of them or about the end of the text. -/
theorem within_ofTokens (stop : Nat) (hts : ts ≠ []) :
    Within stop ts (fun _ => True) (ofTokens stop ts) := by
  unfold ofTokens
  split
  · exact absurd rfl hts
  · refine ((stays_ofDepth stop maxDepth).conditional _).bind fun ⟨e, r, _⟩ hr => ?_
    cases r with
    | nil => trivial
    | cons t r => exact within_here hr ⟨t, rfl, rfl⟩

/-- An error is about a token, or about the end of the text. -/
theorem PointsInto.cases (h : PointsInto stop ts e) :
    (∃ before t after, ts = before ++ t :: after ∧ e.position = t.position ∧
        Explains (t :: after) e.reason) ∨
      e.position = stop ∧ Explains [] e.reason := by
  obtain ⟨r, ⟨before, hts⟩, hp, hr⟩ := h
  cases r with
  | nil => exact .inr ⟨hp, hr⟩
  | cons t after => exact .inl ⟨before, t, after, hts.symm, hp, hr⟩

/-- An error about tokens points to a boundary of the text that they were read from. -/
theorem Placed.isValid_of_pointsInto (hp : Placed text ts)
    (h : PointsInto text.utf8ByteSize ts e) : String.Pos.Raw.IsValid text ⟨e.position⟩ := by
  rcases h.cases with ⟨before, t, after, rfl, he, -⟩ | ⟨he, -⟩
  · rw [he]
    exact hp.isValid t (List.mem_append_right before List.mem_cons_self)
  · rw [he, Text.utf8ByteSize_eq]
    exact Text.isValid_utf8Length (List.append_nil _).symm

/-- A text is parsed, or there is a syntax error at a boundary in the text or at its end. Then it is
where a character or a literal begins that cannot be read, or all tokens are read and it is where
one of them starts, or at the end of the text, or at its front if there are no tokens at all, and
its reason is wrong with what comes there. Tokens that are read stand at increasing boundaries in
front of the end of the text. -/
theorem parse_points (text : String) :
    (∃ ts tree, tokens text = .ok ts ∧ Placed text ts ∧ parse text = .ok tree) ∨
    ∃ e, parse text = .error e ∧ String.Pos.Raw.IsValid text ⟨e.position⟩ ∧
      e.position ≤ text.utf8ByteSize ∧
      (tokens text = .error e ∧ RejectedAt 0 text.toList e ∨
        ∃ ts, tokens text = .ok ts ∧ Placed text ts ∧
          (ts = [] ∧ e = ⟨0, .empty⟩ ∨ ts ≠ [] ∧
            ((∃ before t after, ts = before ++ t :: after ∧ e.position = t.position ∧
                Explains (t :: after) e.reason) ∨
              e.position = text.utf8ByteSize ∧ Explains [] e.reason))) := by
  cases htokens : tokens text with
  | error e =>
    have hrejected := rejectedAt_of_tokensFrom htokens
    have hparse : parse text = .error e := by
      rw [parse, htokens]
      rfl
    have hvalid := hrejected.isValid
    exact .inr ⟨e, hparse, hvalid, hvalid.le_utf8ByteSize, .inl ⟨rfl, hrejected⟩⟩
  | ok ts =>
    have hplaced := placed_of_tokens htokens
    have hparse : parse text = ofTokens text.utf8ByteSize ts := by
      rw [parse, htokens]
      rfl
    by_cases hts : ts = []
    · subst hts
      have hvalid : String.Pos.Raw.IsValid text ⟨Text.utf8Length []⟩ :=
        Text.isValid_utf8Length (List.nil_append _).symm
      exact .inr ⟨⟨0, .empty⟩, hparse, hvalid, hvalid.le_utf8ByteSize,
        .inr ⟨[], rfl, hplaced, .inl ⟨rfl, rfl⟩⟩⟩
    · have hwithin := within_ofTokens text.utf8ByteSize hts
      cases hread : ofTokens text.utf8ByteSize ts with
      | ok tree => exact .inl ⟨ts, tree, rfl, hplaced, hparse.trans hread⟩
      | error e =>
        rw [hread] at hwithin
        have hvalid := hplaced.isValid_of_pointsInto hwithin
        exact .inr ⟨e, hparse.trans hread, hvalid, hvalid.le_utf8ByteSize,
          .inr ⟨ts, rfl, hplaced, .inr ⟨hts, PointsInto.cases hwithin⟩⟩⟩

/-- Offsets count bytes. -/
example : parse "'é' +" = .error ⟨6, .endOfText⟩ := by cbv

end Expr

end Stencil
