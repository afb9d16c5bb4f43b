import EInvoice.Proofs.Markup
import EInvoice.Proofs.Basic
import Mathlib

/-!
# Trees as reading gives them

Every tree that reading a document gives can be written and read again as it is
(`readNodes_rereadable`, `readRoot_rereadable`): its names read back, no attribute name repeats,
its character data and attribute values hold only characters that XML allows, its comments hold
no `--`, its processing instructions no `?>`, and its directives read back.

The proof follows the reader: each token that reading gives can be written again
(`nextToken_writable`), and a stack of open elements whose nodes can all be written keeps this
through every token. A directive is the one token whose text is not what the reader took: a
comment inside it becomes one blank. Its text still reads back, because the directive's reader,
run again over what it gave, passes through the same states (`directiveRun_replay`).
-/

namespace EInvoice.Xml

/-! ## Names -/

theorem isName_of_readName {s rest : List Char} {n : String} (h : readName s = .ok (some n, rest)) :
    isName n.toList = true := by
  unfold readName at h
  split at h
  · cases h
  · split at h
    · cases h
    · split at h
      split_ifs at h with h1 h2
      · cases h
      · simp only [Except.ok.injEq, Prod.mk.injEq, Option.some.injEq] at h
        rw [← h.1, String.toList_ofList]
        exact h2
      · cases h

/-- A name that `splitQName` splits is written back as itself. -/
theorem fullName_of_splitQName {n sp t : String} (h : splitQName n = some (sp, t)) :
    fullName sp t = n := by
  unfold splitQName at h
  split at h
  · simp only [Option.some.injEq, Prod.mk.injEq] at h
    obtain ⟨rfl, rfl⟩ := h
    simp [fullName]
  · rename_i p c l hspan
    split_ifs at h with h1 h2
    · simp only [Option.some.injEq, Prod.mk.injEq] at h
      obtain ⟨rfl, rfl⟩ := h
      simp [fullName]
    · simp only [Option.some.injEq, Prod.mk.injEq] at h
      obtain ⟨rfl, rfl⟩ := h
      -- the name is the part before its first colon, the colon and the part after it
      rw [List.span_eq_takeWhile_dropWhile, Prod.mk.injEq] at hspan
      have hc : c = ':' := by
        have := List.head?_dropWhile_not (fun x => decide (x ≠ ':')) n.toList
        rw [hspan.2] at this
        simpa using this
      have hn : n.toList = p ++ c :: l := by
        rw [← hspan.1, ← hspan.2, List.takeWhile_append_dropWhile]
      have hp : p ≠ [] := by simp at h2; exact h2.1
      rw [← String.toList_inj, hn, hc]
      simp [fullName, hp]

/-- A prefixed name as reading gives it reads back as itself. -/
theorem nameReads_of_readQName {s rest : List Char} {sp t : String}
    (h : readQName s = .ok (some (sp, t), rest)) : NameReads sp t := by
  obtain ⟨⟨n, r⟩, hn, h⟩ := Except.bind_eq_ok.1 h
  simp only [pure, Except.pure, Except.ok.injEq, Prod.mk.injEq] at h
  obtain ⟨m, rfl, hm⟩ := Option.bind_eq_some_iff.1 h.1
  rw [NameReads, fullName_of_splitQName hm]
  exact ⟨isName_of_readName hn, hm⟩


/-! ## Character data and attribute values -/

/-- Reading checks that decoded text holds only characters that XML allows. -/
theorem isXmlChar_of_readText {e : TextEnd} {s rest : List Char} {d : String}
    (h : readText e s = .ok (d, rest)) : ∀ c ∈ d.toList, isXmlChar c = true := by
  obtain ⟨⟨data, r⟩, -, h⟩ := Except.bind_eq_ok.1 h
  simp only at h
  split at h
  · cases h
  · rename_i hfind
    simp only [pure, Except.pure, Except.ok.injEq, Prod.mk.injEq] at h
    rw [← h.1, String.toList_ofList]
    intro c hc
    simpa using List.find?_eq_none.1 hfind c hc

/-- The attributes read in a start tag have names that read back and values of characters that
XML allows. -/
theorem attrWritable_of_readAttrs {fuel : Nat} {acc : List Attr} {s : List Char}
    {as : List Attr} {closed : Bool} {rest : List Char}
    (h : readAttrs fuel acc s = .ok ((as, closed), rest)) (hacc : ∀ a ∈ acc, AttrWritable a) :
    ∀ a ∈ as, AttrWritable a := by
  fun_induction readAttrs fuel acc s with
  | case1 | case2 | case3 | case5 => cases h
  | case4 | case6 =>
    simp only [Except.ok.injEq, Prod.mk.injEq] at h
    rw [← h.1.1]
    simpa using hacc
  | case7 fuel acc s _ _ _ ih =>
    obtain ⟨⟨n, r⟩, hq, h⟩ := Except.bind_eq_ok.1 h
    rcases n with _ | ⟨sp, key⟩
    · cases h
    · simp only at h
      split at h
      · cases h
      · split at h
        · cases h
        · split_ifs at h
          · obtain ⟨⟨v, r4⟩, hv, h⟩ := Except.bind_eq_ok.1 h
            refine ih sp key v r4 h fun a ha => ?_
            rcases List.mem_cons.1 ha with rfl | ha
            · exact ⟨nameReads_of_readQName hq, isXmlChar_of_readText hv⟩
            · exact hacc a ha
          · cases h
      · cases h

/-! ## Comments and processing instructions -/

/-- The body of a comment as reading gives it holds no `--` and does not end with `-`. -/
theorem commentWritable_of_commentBody {s b r : List Char} (h : commentBody s = .ok (b, r)) :
    CommentWritable b := by
  fun_induction commentBody s generalizing b r with
  | case1 =>
    simp only [Except.ok.injEq, Prod.mk.injEq] at h
    rw [← h.1]
    simp [CommentWritable]
  | case2 | case3 | case5 => cases h
  | case4 c rest hne1 hne2 hne3 ih =>
    obtain ⟨⟨b', r'⟩, hb', h⟩ := Except.bind_eq_ok.1 h
    simp only [pure, Except.pure, Except.ok.injEq, Prod.mk.injEq] at h
    obtain ⟨rfl, -⟩ := h
    have hw := ih hb'
    -- within a comment a dash is followed by something other than a dash
    have hdash : c = '-' → ∃ x b'', b' = x :: b'' ∧ x ≠ '-' := by
      rintro rfl
      obtain ⟨x, t, rfl, hx⟩ : ∃ x t, rest = x :: t ∧ x ≠ '-' := by
        match rest, hb' with
        | [], hb' => cases hb'
        | x :: t, _ =>
          refine ⟨x, t, rfl, fun hx => ?_⟩
          subst hx
          cases t with
          | nil => exact hne3 rfl rfl
          | cons y t => exact hne2 y t rfl rfl
      rw [commentBody] at hb'
      · obtain ⟨⟨b'', r''⟩, -, hb'⟩ := Except.bind_eq_ok.1 hb'
        simp only [pure, Except.pure, Except.ok.injEq, Prod.mk.injEq] at hb'
        exact ⟨x, b'', hb'.1.symm, hx⟩
      all_goals simp_all
    refine ⟨fun hinf => ?_, fun hlast => ?_⟩
    · rcases List.infix_cons_iff.1 hinf with hpre | hinf
      · -- a `--` at the front would be a dash followed by a dash
        obtain ⟨rfl, hdd⟩ := List.cons_prefix_cons.1 hpre
        obtain ⟨x, b'', rfl, hx⟩ := hdash rfl
        exact hx (List.cons_prefix_cons.1 hdd).1.symm
      · exact hw.1 hinf
    · cases b' with
      | nil =>
        obtain ⟨x, b'', h, -⟩ := hdash (by simpa using hlast)
        cases h
      | cons y b'' =>
        rw [List.getLast?_cons_cons] at hlast
        exact hw.2 hlast


/-- The body of a processing instruction is what stands before its first `?>`. -/
theorem instructionBody_spec {s b r : List Char} (h : instructionBody s = .ok (b, r)) :
    ¬ ['?', '>'] <:+: b ∧ b <+: s := by
  fun_induction instructionBody s generalizing b r with
  | case1 =>
    simp only [Except.ok.injEq, Prod.mk.injEq] at h
    rw [← h.1]
    simp
  | case3 => cases h
  | case2 c rest hne ih =>
    obtain ⟨⟨b', r'⟩, hb', h⟩ := Except.bind_eq_ok.1 h
    simp only [pure, Except.pure, Except.ok.injEq, Prod.mk.injEq] at h
    obtain ⟨rfl, -⟩ := h
    obtain ⟨hno, hpre⟩ := ih hb'
    refine ⟨fun hinf => ?_, List.cons_prefix_cons.2 ⟨rfl, hpre⟩⟩
    rcases List.infix_cons_iff.1 hinf with hq | hinf
    · -- a `?>` at the front would have ended the body
      obtain ⟨rfl, hgt⟩ := List.cons_prefix_cons.1 hq
      obtain ⟨t, ht⟩ := hgt.trans hpre
      exact hne t rfl (by simpa using ht.symm)
    · exact hno hinf

/-- Text with its leading blanks dropped starts with no blank. -/
theorem head_skipSpace (s : List Char) : ∀ c ∈ (skipSpace s).head?, isSpace c = false := by
  intro c hc
  have := List.head?_dropWhile_not isSpace s
  rw [skipSpace] at hc
  rw [Option.mem_def] at hc
  rw [hc] at this
  exact this

/-- A processing instruction as reading gives it reads back as itself. -/
theorem instructionWritable_of_readInstruction {s r : List Char} {t : Token}
    (h : readInstruction s = .ok (t, r)) :
    ∃ tg b, t = .instruction tg b ∧ InstructionWritable tg b := by
  obtain ⟨⟨n, rest⟩, hn, h⟩ := Except.bind_eq_ok.1 h
  rcases n with _ | target
  · cases h
  · obtain ⟨⟨body, r'⟩, hbody, h⟩ := Except.bind_eq_ok.1 h
    simp only at h
    by_cases hv : target = "xml" ∧ declaredVersion body ≠ "" ∧ declaredVersion body ≠ "1.0"
    · rw [if_pos hv] at h
      cases h
    · rw [if_neg hv] at h
      simp only [pure, Except.pure, Except.ok.injEq, Prod.mk.injEq] at h
      obtain ⟨hno, hpre⟩ := instructionBody_spec hbody
      refine ⟨target, String.ofList body, h.1.symm, isName_of_readName hn, ?_, ?_, ?_⟩
      · simpa using hno
      · -- the body starts where the blanks after the target end
        intro c hc
        rw [String.toList_ofList] at hc
        obtain ⟨x, xs, rfl⟩ : ∃ x xs, body = x :: xs := by
          cases body with
          | nil => simp at hc
          | cons x xs => exact ⟨x, xs, rfl⟩
        obtain ⟨u, hu⟩ := hpre
        simp only [List.head?_cons, Option.mem_def, Option.some.injEq] at hc
        subst hc
        exact head_skipSpace rest _ (by rw [← hu]; rfl)
      · intro hxml
        rw [String.toList_ofList]
        by_contra hne
        exact hv ⟨hxml, by simpa [not_or] using hne⟩

/-! ## Directives -/

/-- Where a second reading of a directive stands when the first stands at `d`: what the first
has taken of a comment, or of what may open one, has left nothing behind yet. -/
def DirectiveState.replay (d : DirectiveState) : DirectiveState :=
  match d.mode with
  | .plain => d
  | .afterLt _ => { d with acc := d.acc.drop 1, mode := .plain }
  | .inComment _ _ => { d with mode := .plain }

/-- The states a directive's reader passes through: outside plain text no quote is open; after a
`<` that may open a comment, at most two characters of `!--` have been seen and the `<` is the
last character taken. -/
def DirectiveState.Sound (d : DirectiveState) : Prop :=
  match d.mode with
  | .plain => True
  | .afterLt seen => seen ≤ 2 ∧ d.quote = none ∧ d.acc.head? = some '<'
  | .inComment _ _ => d.quote = none

namespace DirectiveState

variable {d : DirectiveState} {b : Char}

theorem eta_mode {m : DirectiveMode} (h : d.mode = m) : { d with mode := m } = d := by
  cases d; simp_all

/-- Taking a character in plain text stays in plain text, unless the character is a `<` outside
quotes, which may open a comment. -/
theorem take_cases (hd : d.mode = .plain) :
    (d.take b).mode = .plain ∨
      (b = '<' ∧ d.quote = none ∧ d.take b = { d with acc := '<' :: d.acc, mode := .afterLt 0 }) := by
  simp only [take]
  split_ifs <;> simp_all

theorem take_sound (hd : d.mode = .plain) : (d.take b).Sound := by
  rcases take_cases (b := b) hd with h | ⟨rfl, hq, h⟩
  · simp [Sound, h]
  · simp [Sound, h, hq]

theorem replay_of_plain (hd : d.mode = .plain) : d.replay = d := by
  simp [replay, hd]

/-- In plain text a character that does not close the directive is taken. -/
theorem run_plain {s : List Char} (hd : d.mode = .plain)
    (hb : ¬(d.quote.isNone = true ∧ b = '>' ∧ d.depth = 0)) :
    directiveRun d (b :: s) = directiveRun (d.take b) s := by
  rw [directiveRun]; simp only [hd]; rw [if_neg hb]

theorem take_acc : (d.take b).acc = b :: d.acc := by
  simp only [take]
  split_ifs <;> rfl

/-- After a `<` that may open a comment, a second reading that takes the `<` and what was seen of
`!--` stands where the first stands. -/
theorem run_replay_afterLt {seen : Nat} (hm : d.mode = .afterLt seen) (hd : d.Sound)
    (x : List Char) :
    directiveRun d.replay ('<' :: (commentOpen.take seen ++ x)) = directiveRun d x := by
  obtain ⟨hs, hq, hacc⟩ : seen ≤ 2 ∧ d.quote = none ∧ d.acc.head? = some '<' := by
    simpa [Sound, hm] using hd
  obtain ⟨q, dep, acc, mode⟩ := d
  obtain ⟨a, rfl⟩ : ∃ a, acc = '<' :: a := by
    cases acc with
    | nil => simp at hacc
    | cons c a => simp at hacc; exact ⟨a, by rw [hacc]⟩
  simp only at hm hq
  subst hm hq
  interval_cases seen <;> simp [replay, directiveRun, take, commentOpen]

/-- A character other than the next of `!--` after a `<` puts back what was seen of it. -/
theorem run_afterLt_mismatch {seen : Nat} (hm : d.mode = .afterLt seen) {c : Char}
    (hc : commentOpen[seen]? ≠ some c) (s : List Char) :
    directiveRun d (c :: s) = directiveRun
      (take { quote := d.quote, depth := d.depth + 1, acc := (commentOpen.take seen).reverse ++ d.acc } c)
      s := by
  rw [directiveRun]; simp only [hm]; rw [if_neg hc]

end DirectiveState

open DirectiveState in
/-- What the directive's reader gives from where it stands at `d`, read again from where a second
reading stands, is given the same way and ends at a `>` after it. After a `<` that may open a
comment, what is still to give starts with that `<` or with the blank that stands for a comment. -/
theorem directiveRun_replay {d : DirectiveState} {s out r : List Char} (hd : d.Sound)
    (h : directiveRun d s = .ok (out, r)) :
    ∃ new, out = d.replay.acc.reverse ++ new ∧
      (d.mode = .plain ∨ new.head? = some '<' ∨ new.head? = some ' ') ∧
      ∀ rest, directiveRun d.replay (new ++ '>' :: rest) = .ok (out, rest) := by
  fun_induction directiveRun d s with
  | case1 => simp [endOfInput, fault] at h
  | case2 d c s hm hclose =>
    -- the closing `>`
    simp only [Except.ok.injEq, Prod.mk.injEq] at h
    obtain ⟨rfl, rfl⟩ := h
    refine ⟨[], by simp [replay_of_plain hm], .inl hm, fun rest => ?_⟩
    rw [replay_of_plain hm, List.nil_append, directiveRun]
    simp [hm, hclose.1, hclose.2.2]
  | case3 d c s hm hopen ih =>
    obtain ⟨new, hout, -, hrun⟩ := ih (take_sound hm) h
    rcases take_cases (b := c) hm with hp | ⟨rfl, -, ht⟩
    · refine ⟨c :: new, ?_, .inl hm, fun rest => ?_⟩
      · rw [hout, replay_of_plain hp, replay_of_plain hm, take_acc]
        simp
      · rw [replay_of_plain hm, List.cons_append, run_plain hm hopen, ← replay_of_plain hp]
        exact hrun rest
    · -- a `<` that may open a comment leaves nothing behind for now
      have hr : (d.take '<').replay = d := by
        rw [ht]
        simp [replay, eta_mode hm]
      refine ⟨new, by rw [hout, hr, replay_of_plain hm], .inl hm, fun rest => ?_⟩
      rw [replay_of_plain hm, ← hr]
      exact hrun rest
  | case4 d c s hm hc ih =>
    obtain ⟨hq, -⟩ : d.quote = none ∧ d.acc.head? = some '<' := by simpa [Sound, hm] using hd
    obtain ⟨new, hout, hhead, hrun⟩ := ih (by simpa [Sound] using hq) h
    have hr : d.replay = { quote := d.quote, depth := d.depth, acc := d.acc.drop 1 } := by
      simp [replay, hm]
    refine ⟨new, by rw [hr]; simpa [replay] using hout, .inr (by simpa using hhead), fun rest => ?_⟩
    rw [hr]
    simpa [replay] using hrun rest
  | case5 d c s seen hm hc hne ih =>
    obtain ⟨hs, hq, hacc⟩ : seen ≤ 2 ∧ d.quote = none ∧ d.acc.head? = some '<' := by
      simpa [Sound, hm] using hd
    obtain ⟨new, hout, hhead, hrun⟩ := ih (by simp [Sound, hq, hacc]; omega) h
    have hr : d.replay = { quote := d.quote, depth := d.depth, acc := d.acc.drop 1 } := by
      simp [replay, hm]
    refine ⟨new, by rw [hr]; simpa [replay] using hout, .inr (by simpa using hhead), fun rest => ?_⟩
    rw [hr]
    simpa [replay] using hrun rest
  | case6 d c s seen hm hc d' ih =>
    obtain ⟨-, -, hacc⟩ : seen ≤ 2 ∧ d.quote = none ∧ d.acc.head? = some '<' := by
      simpa [Sound, hm] using hd
    obtain ⟨a, ha⟩ : ∃ a, d.acc = '<' :: a := by
      cases h' : d.acc with
      | nil => simp [h'] at hacc
      | cons x a => simp [h'] at hacc; exact ⟨a, by rw [hacc]⟩
    have hr : d.replay.acc = a := by simp [replay, hm, ha]
    have hd' : d'.mode = .plain := rfl
    have hacc' : d'.acc = (commentOpen.take seen).reverse ++ d.acc := rfl
    obtain ⟨new, hout, hhead, hrun⟩ := ih (take_sound hd') h
    -- read again, the `<` and what was seen of `!--` lead back to `d`
    have hback := run_replay_afterLt hm hd
    rcases take_cases (b := c) hd' with hp | ⟨rfl, -, ht⟩
    · refine ⟨'<' :: (commentOpen.take seen ++ c :: new), ?_, .inr (.inl rfl), fun rest => ?_⟩
      · rw [hout, replay_of_plain hp, take_acc, hr, hacc', ha]
        simp
      · rw [List.cons_append, List.append_assoc, hback, List.cons_append,
          run_afterLt_mismatch hm hc, ← replay_of_plain hp]
        exact hrun rest
    · -- a second `<`: what follows it starts with it or with the blank of a comment
      have hr' : (d'.take '<').replay = d' := by
        rw [ht]
        simp [replay]
        rfl
      rw [ht] at hhead
      obtain ⟨x, new', rfl, hx⟩ : ∃ x new', new = x :: new' ∧ (x = '<' ∨ x = ' ') := by
        cases new with
        | nil => simp at hhead
        | cons x new' => exact ⟨x, new', rfl, by simpa using hhead⟩
      have hcx : commentOpen[seen]? ≠ some x := fun h' => by
        have := List.mem_of_getElem? h'
        simp [commentOpen] at this
        rcases hx with rfl | rfl <;> simp_all
      refine ⟨'<' :: (commentOpen.take seen ++ x :: new'), ?_, .inr (.inl rfl), fun rest => ?_⟩
      · rw [hout, hr', hr, hacc', ha]
        simp
      · have hrun' := hrun rest
        rw [hr', List.cons_append, run_plain hd' (by simp [d'])] at hrun'
        rw [List.cons_append, List.append_assoc, hback, List.cons_append,
          run_afterLt_mismatch hm hcx]
        exact hrun'
  | case7 d c s b0 b1 hm hclose ih =>
    have hq : d.quote = none := by simpa [Sound, hm] using hd
    obtain ⟨new, hout, -, hrun⟩ := ih trivial h
    have hr : d.replay = { quote := d.quote, depth := d.depth, acc := d.acc } := by
      simp [replay, hm]
    refine ⟨' ' :: new, by rw [hr]; simpa [replay] using hout, .inr (.inr rfl), fun rest => ?_⟩
    rw [hr, List.cons_append, run_plain rfl (by simp), show take _ ' ' =
      { quote := d.quote, depth := d.depth, acc := ' ' :: d.acc } by simp [take, hq]]
    simpa [replay] using hrun rest
  | case8 d c s b0 b1 hm hnot ih =>
    have hq : d.quote = none := by simpa [Sound, hm] using hd
    obtain ⟨new, hout, hhead, hrun⟩ := ih (by simpa [Sound] using hq) h
    have hr : d.replay = { quote := d.quote, depth := d.depth, acc := d.acc } := by
      simp [replay, hm]
    refine ⟨new, by rw [hr]; simpa [replay] using hout, .inr (by simpa using hhead), fun rest => ?_⟩
    rw [hr]
    simpa [replay] using hrun rest


/-- A directive as reading gives it reads back as itself. -/
theorem directiveWritable_of_directiveRun {b : Char} (hb : b ≠ '-' ∧ b ≠ '[') {s body r : List Char}
    (h : directiveRun { acc := [b] } s = .ok (body, r)) : DirectiveWritable (String.ofList body) := by
  obtain ⟨new, hout, -, hrun⟩ := directiveRun_replay (by simp [DirectiveState.Sound]) h
  simp only [DirectiveState.replay, List.reverse_singleton] at hout hrun
  intro rest
  rw [String.toList_ofList, hout, List.singleton_append, List.cons_append, readBang.eq_def]
  split
  · rename_i heq; simp at heq
  · rename_i heq; simp at heq; exact absurd heq.1 hb.1
  · rename_i heq; simp at heq; exact absurd heq.1 hb.2
  · rename_i heq
    simp only [List.cons.injEq] at heq
    obtain ⟨rfl, rfl⟩ := heq
    rw [hrun rest, hout]
    rfl

/-! ## Tokens -/

/-- A token as reading gives it, which can be written and read again as it is. -/
def Token.Writable : Token → Prop
  | .start sp t as _ => NameReads sp t ∧ ∀ a ∈ as, AttrWritable a
  | .stop _ _ => True
  | .text d => ∀ c ∈ d.toList, isXmlChar c = true
  | .comment d => CommentWritable d.toList
  | .instruction t b => InstructionWritable t b
  | .directive d => DirectiveWritable d

theorem openSection_writable : ∀ {pre s r : List Char} {t : Token},
    readBang.openSection pre s = .ok (t, r) → t.Writable
  | [], s, r, t, h => by
    obtain ⟨⟨d, r'⟩, hd, h⟩ := Except.bind_eq_ok.1 h
    simp only [pure, Except.pure, Except.ok.injEq, Prod.mk.injEq] at h
    rw [← h.1]
    exact isXmlChar_of_readText hd
  | _ :: _, [], _, _, h => by cases h
  | c :: cs, b :: s, r, t, h => by
    rw [readBang.openSection] at h
    split_ifs at h
    · exact openSection_writable h
    · cases h

theorem readBang_writable {s r : List Char} {t : Token} (h : readBang s = .ok (t, r)) :
    t.Writable := by
  rw [readBang.eq_def] at h
  split at h
  · cases h
  · split at h
    · cases h
    · obtain ⟨⟨body, r'⟩, hbody, h⟩ := Except.bind_eq_ok.1 h
      simp only [pure, Except.pure, Except.ok.injEq, Prod.mk.injEq] at h
      rw [← h.1]
      simpa [Token.Writable] using commentWritable_of_commentBody hbody
    · cases h
  · exact openSection_writable h
  · rename_i b rest hne1 hne2
    obtain ⟨⟨body, r'⟩, hbody, h⟩ := Except.bind_eq_ok.1 h
    simp only [pure, Except.pure, Except.ok.injEq, Prod.mk.injEq] at h
    rw [← h.1]
    exact directiveWritable_of_directiveRun ⟨hne1, hne2⟩
      hbody


theorem readStart_writable {s r : List Char} {t : Token} (h : readStart s = .ok (t, r)) :
    t.Writable := by
  obtain ⟨⟨n, rest⟩, hn, h⟩ := Except.bind_eq_ok.1 h
  rcases n with _ | ⟨sp, tag⟩
  · cases h
  · obtain ⟨⟨⟨attrs, closed⟩, r'⟩, hattrs, h⟩ := Except.bind_eq_ok.1 h
    simp only [pure, Except.pure, Except.ok.injEq, Prod.mk.injEq] at h
    rw [← h.1]
    exact ⟨nameReads_of_readQName hn, attrWritable_of_readAttrs hattrs (by simp)⟩

theorem map_some_eq_ok {x : Except Fault (Token × List Char)} {t : Token} {r : List Char} :
    x.map (fun (t, r) => (some t, r)) = .ok (some t, r) ↔ x = .ok (t, r) := by
  rcases x with _ | ⟨t', r'⟩ <;> simp [Except.map]

/-- Every token that reading gives can be written and read again as it is. -/
theorem nextToken_writable {s r : List Char} {t : Token} (h : nextToken s = .ok (some t, r)) :
    t.Writable := by
  unfold nextToken at h
  split at h
  · cases h
  · -- markup: the token is the one its reader gives
    simp only at h
    split at h <;> rw [map_some_eq_ok] at h
    · cases h
    · obtain ⟨⟨n, rest⟩, -, h⟩ := Except.bind_eq_ok.1 h
      rcases n with _ | ⟨sp, tag⟩
      · cases h
      · simp only at h
        split at h
        · cases h
        · simp only [pure, Except.pure, Except.ok.injEq, Prod.mk.injEq] at h
          rw [← h.1]
          trivial
        · cases h
    · exact (instructionWritable_of_readInstruction h).elim fun tg ⟨b, ht, hw⟩ => ht ▸ hw
    · exact readBang_writable h
    · exact readStart_writable h
  · obtain ⟨⟨d, r'⟩, hd, h⟩ := Except.map_eq_ok.1 h
    simp only [Option.some.injEq, Prod.mk.injEq] at h
    rw [← h.1]
    exact isXmlChar_of_readText hd


/-! ## Trees -/

mutual
/-- Every character of the character data and attribute values of a node satisfies `p`. -/
def CharsIn (p : Char → Prop) : Node → Prop
  | .elem _ _ as cs => (∀ a ∈ as, ∀ c ∈ a.value.toList, p c) ∧ CharsInAll p cs
  | .text d => ∀ c ∈ d.toList, p c
  | _ => True
/-- Every character of the character data and attribute values of nodes satisfies `p`. -/
def CharsInAll (p : Char → Prop) : List Node → Prop
  | [] => True
  | n :: ns => CharsIn p n ∧ CharsInAll p ns
end

theorem charsInAll_iff {p : Char → Prop} {ns : List Node} :
    CharsInAll p ns ↔ ∀ n ∈ ns, CharsIn p n := by
  induction ns with
  | nil => simp [CharsInAll]
  | cons n ns ih => simp [CharsInAll, ih]

mutual
theorem CharsIn.mono {p q : Char → Prop} (hpq : ∀ c, p c → q c) :
    ∀ {n : Node}, CharsIn p n → CharsIn q n
  | .elem _ _ _ _, ⟨ha, hcs⟩ => ⟨fun a hmem c hc => hpq c (ha a hmem c hc), CharsInAll.mono hpq hcs⟩
  | .text _, h => fun c hc => hpq c (h c hc)
  | .comment _, _ => trivial
  | .instruction _ _, _ => trivial
  | .directive _, _ => trivial
theorem CharsInAll.mono {p q : Char → Prop} (hpq : ∀ c, p c → q c) :
    ∀ {ns : List Node}, CharsInAll p ns → CharsInAll q ns
  | [], _ => trivial
  | _ :: _, ⟨hn, hns⟩ => ⟨CharsIn.mono hpq hn, CharsInAll.mono hpq hns⟩
end

mutual
/-- Whether every character of the character data and attribute values of a node passes `p`. -/
def charsAll (p : Char → Bool) : Node → Bool
  | .elem _ _ as cs => as.all (fun a => a.value.toList.all p) && charsAllOf p cs
  | .text d => d.toList.all p
  | _ => true
/-- Whether every character of the character data and attribute values of nodes passes `p`. -/
def charsAllOf (p : Char → Bool) : List Node → Bool
  | [] => true
  | n :: ns => charsAll p n && charsAllOf p ns
end

mutual
theorem charsAll_iff {p : Char → Prop} [DecidablePred p] :
    ∀ {n : Node}, charsAll (fun c => decide (p c)) n = true ↔ CharsIn p n
  | .elem _ _ _ _ => by simp [charsAll, CharsIn, charsAllOf_iff]
  | .text _ => by simp [charsAll, CharsIn]
  | .comment _ => by simp [charsAll, CharsIn]
  | .instruction _ _ => by simp [charsAll, CharsIn]
  | .directive _ => by simp [charsAll, CharsIn]
theorem charsAllOf_iff {p : Char → Prop} [DecidablePred p] :
    ∀ {ns : List Node}, charsAllOf (fun c => decide (p c)) ns = true ↔ CharsInAll p ns
  | [] => by simp [charsAllOf, CharsInAll]
  | _ :: _ => by simp [charsAllOf, CharsInAll, charsAll_iff, charsAllOf_iff]
end

instance {p : Char → Prop} [DecidablePred p] (n : Node) : Decidable (CharsIn p n) :=
  decidable_of_iff _ charsAll_iff

theorem writableNodes_iff {ns : List Node} : WritableNodes ns ↔ ∀ n ∈ ns, WritableNode n := by
  induction ns with
  | nil => simp [WritableNodes]
  | cons n ns ih => simp [WritableNodes, ih]

/-- A node as reading gives it: it can be written and read again, and its character data and
attribute values hold only characters that XML allows. -/
def Node.Rereadable (n : Node) : Prop :=
  WritableNode n ∧ CharsIn (fun c => isXmlChar c = true) n

theorem Node.rereadable_elem_iff {sp t : String} {as : List Attr} {cs : List Node} :
    (Node.elem sp t as cs).Rereadable ↔
      (NameReads sp t ∧ (∀ a ∈ as, AttrWritable a) ∧ (as.map fun a => (a.space, a.key)).Nodup) ∧
        ∀ n ∈ cs, n.Rereadable := by
  simp only [Rereadable, WritableNode, CharsIn, writableNodes_iff, charsInAll_iff]
  constructor
  · rintro ⟨⟨h1, h2, h3, h4⟩, -, h5⟩
    exact ⟨⟨h1, h2, h3⟩, fun n hn => ⟨h4 n hn, h5 n hn⟩⟩
  · rintro ⟨⟨h1, h2, h3⟩, h4⟩
    exact ⟨⟨h1, h2, h3, fun n hn => (h4 n hn).1⟩, fun a ha => (h2 a ha).2,
      fun n hn => (h4 n hn).2⟩

/-- Merging repeated attributes keeps names that read back and values that XML allows, and
leaves no name twice. -/
theorem mergeAttrs_spec {as : List Attr} (h : ∀ a ∈ as, AttrWritable a) :
    (∀ a ∈ mergeAttrs as, AttrWritable a) ∧ ((mergeAttrs as).map fun a => (a.space, a.key)).Nodup := by
  -- the fold keeps both facts of what it has merged so far
  suffices ∀ acc : List Attr, (∀ a ∈ acc, AttrWritable a) → (acc.map fun a => (a.space, a.key)).Nodup →
      let r := as.foldl (fun acc a =>
        if acc.any (fun b => b.space == a.space && b.key == a.key) then
          acc.map fun b => if b.space == a.space && b.key == a.key then { b with value := a.value } else b
        else acc ++ [a]) acc
      (∀ a ∈ r, AttrWritable a) ∧ (r.map fun a => (a.space, a.key)).Nodup from
    this [] (by simp) (by simp)
  induction as with
  | nil => intro acc h1 h2; exact ⟨h1, h2⟩
  | cons a as ih =>
    intro acc h1 h2
    obtain ⟨ha, has⟩ : AttrWritable a ∧ ∀ b ∈ as, AttrWritable b := by simpa using h
    simp only [List.foldl_cons]
    split
    · rename_i hany
      refine ih has _ (fun b hb => ?_) ?_
      · obtain ⟨b', hb', rfl⟩ := List.mem_map.1 hb
        split
        · exact ⟨(h1 b' hb').1, ha.2⟩
        · exact h1 b' hb'
      · -- updating a value keeps every name
        rw [List.map_map]
        convert h2 using 2
        funext b
        simp only [Function.comp_apply]
        split <;> rfl
    · rename_i hany
      refine ih has _ (fun b hb => ?_) ?_
      · rcases List.mem_append.1 hb with hb | hb
        · exact h1 b hb
        · simp only [List.mem_singleton] at hb
          exact hb ▸ ha
      · simp only [List.any_eq_true, Bool.and_eq_true, beq_iff_eq, not_exists, not_and] at hany
        rw [List.map_append, List.nodup_append]
        refine ⟨h2, by simp, ?_⟩
        simp only [List.mem_map, List.map_cons, List.map_nil, List.mem_singleton]
        rintro _ ⟨b, hb, rfl⟩ _ rfl heq
        simp only [Prod.mk.injEq] at heq
        exact hany b hb heq.1 heq.2


/-! ## Reading -/

/-- A reader's stack whose finished nodes, and open elements with the children read so far, are as
reading gives them. -/
def Stack.Rereadable (st : Stack) : Prop :=
  (∀ o ∈ st.open_, o.close.Rereadable) ∧ ∀ n ∈ st.top, n.Rereadable

theorem OpenElement.close_push (o : OpenElement) (n : Node) :
    (o.push n).close = .elem o.space o.tag o.attrs (o.children.reverse ++ [n]) := by
  simp [OpenElement.push, OpenElement.close]

theorem Stack.Rereadable.push {st : Stack} (hst : st.Rereadable) {n : Node} (hn : n.Rereadable) :
    (st.push n).Rereadable := by
  obtain ⟨hopen, htop⟩ := hst
  unfold Stack.push
  split
  · refine ⟨by simp_all, fun m hm => ?_⟩
    rcases List.mem_cons.1 hm with rfl | hm
    · exact hn
    · exact htop m hm
  · rename_i o os heq
    rw [heq] at hopen
    refine ⟨fun o' ho' => ?_, htop⟩
    rcases List.mem_cons.1 ho' with rfl | ho'
    · -- the new child goes last among the element's children
      have ho := Node.rereadable_elem_iff.1 (hopen o (by simp))
      rw [OpenElement.close_push, Node.rereadable_elem_iff]
      refine ⟨ho.1, fun m hm => ?_⟩
      rcases List.mem_append.1 hm with hm | hm
      · exact ho.2 m hm
      · simp only [List.mem_singleton] at hm
        exact hm ▸ hn
    · exact hopen o' (List.mem_cons_of_mem _ ho')

/-- One token read keeps the stack as reading gives it. -/
theorem Stack.Rereadable.step {st st' : Stack} (hst : st.Rereadable) {t : Token} (ht : t.Writable)
    (h : st.step t = some st') : st'.Rereadable := by
  cases t with
  | start sp tag attrs closed =>
    obtain ⟨hname, hattrs⟩ := ht
    obtain ⟨hw, hnodup⟩ := mergeAttrs_spec hattrs
    have ho : (Node.elem sp tag (mergeAttrs attrs) []).Rereadable :=
      Node.rereadable_elem_iff.2 ⟨⟨hname, hw, hnodup⟩, by simp⟩
    simp only [Stack.step] at h
    split at h
    · cases h
      exact hst.push ho
    · cases h
      refine ⟨fun o hmem => ?_, hst.2⟩
      rcases List.mem_cons.1 hmem with rfl | hmem
      · exact ho
      · exact hst.1 o hmem
  | stop sp tag =>
    simp only [Stack.step] at h
    split at h
    · rename_i o os heq
      split_ifs at h
      cases h
      obtain ⟨hopen, htop⟩ := hst
      rw [heq] at hopen
      have hrest : ({ open_ := os, top := st.top } : Stack).Rereadable :=
        ⟨fun o' ho' => hopen o' (List.mem_cons_of_mem _ ho'), htop⟩
      exact hrest.push (hopen o (by simp))
    · cases h
  | text d =>
    cases h
    exact hst.push ⟨trivial, ht⟩
  | comment d =>
    cases h
    exact hst.push ⟨ht, trivial⟩
  | instruction t b =>
    cases h
    exact hst.push ⟨ht, trivial⟩
  | directive d =>
    cases h
    exact hst.push ⟨ht, trivial⟩

/-- Every node read from a stack as reading gives it is as reading gives it. -/
theorem readTokens_rereadable {input : List Char} :
    ∀ {fuel : Nat} {st : Stack} {s : List Char} {ns : List Node},
      readTokens input fuel st s = .ok ns → st.Rereadable → ∀ n ∈ ns, n.Rereadable
  | 0, _, _, _, h, _ => by cases h
  | fuel + 1, st, s, ns, h, hst => by
    rw [readTokens] at h
    split at h
    · cases h
    · cases h
    · split_ifs at h
      cases h
      intro n hn
      exact hst.2 n (List.mem_reverse.1 hn)
    · rename_i t rest hnext
      split at h
      · rename_i st' hstep
        exact readTokens_rereadable h (hst.step (nextToken_writable hnext) hstep)
      · cases h

theorem Element.toNode_mem_children {e c : Element} (h : c ∈ e.childElements) :
    c.toNode ∈ e.children := by
  obtain ⟨n, hn, hc⟩ := List.mem_filterMap.1 h
  cases n <;> simp only [Node.element?, reduceCtorEq, Option.some.injEq] at hc
  subst hc
  exact hn

theorem Node.Rereadable.child {e c : Element} (h : e.toNode.Rereadable) (hc : c ∈ e.childElements) :
    c.toNode.Rereadable :=
  (Node.rereadable_elem_iff.1 h).2 _ (Element.toNode_mem_children hc)

theorem CharsIn.child {p : Char → Prop} {e c : Element} (h : CharsIn p e.toNode)
    (hc : c ∈ e.childElements) : CharsIn p c.toNode :=
  charsInAll_iff.1 h.2 _ (Element.toNode_mem_children hc)

/-- Every node of a document is as reading gives it: it can be written and read again, and its
character data and attribute values hold only characters that XML allows. -/
theorem readNodes_rereadable {text : String} {ns : List Node} (h : readNodes text = .ok ns) :
    ∀ n ∈ ns, n.Rereadable :=
  readTokens_rereadable h ⟨by simp, by simp⟩

theorem readRoot_rereadable {text : String} {e : Element} (h : readRoot text = .ok (some e)) :
    e.toNode.Rereadable := by
  obtain ⟨ns, hns, hroot⟩ := Except.map_eq_ok.1 h
  obtain ⟨n, hn, he⟩ := List.exists_of_findSome?_eq_some hroot
  have : n = e.toNode := by
    cases n <;> simp only [Node.element?, reduceCtorEq, Option.some.injEq] at he
    subst he
    rfl
  exact this ▸ readNodes_rereadable hns n hn

end EInvoice.Xml
