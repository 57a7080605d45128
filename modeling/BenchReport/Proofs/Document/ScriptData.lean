import Mathlib.Data.List.Infix

/-!
# Where a script ends

A browser looks for the end of a script by the HTML standard's rules for script data.  An end tag of
a script ends it, but not everywhere.  A comment may stand in a script, and when a script tag stands
in the comment, the next end tag belongs to it.  So text without any end tag can still keep the end
tag behind it from ending the script: it opens a comment, begins a script in it, and does not close
the comment.

## Main definitions

* `ScriptData.State`, `ScriptData.step`, `ScriptData.run` — the states of the standard.
* `ScriptData.after?` — what stands behind the end of a script.
* `ScriptData.State.Within` — a state in escaped text, of a depth or deeper.
* `ScriptData.Opens`, `ScriptData.Escapes` — a script tag, and an open comment, perhaps with one.

## Main results

* `ScriptData.moves_step` — what a character can do in text without end tags.
* `ScriptData.within_run_iff` — **text without end tags leads into a comment exactly when it leaves
  one open, and into a script in it exactly when the comment has a script tag.**
* `ScriptData.after?_endTag` — an end tag behind it ends the script, or the one in the comment.
-/

namespace BenchReport.ScriptData

/-! ### The states -/

/-- How deep escaped text is: in a comment, or in a script in a comment. -/
inductive Depth where
  /-- In a comment. -/
  | once
  /-- In a script in a comment. -/
  | twice
  deriving DecidableEq

/-- What has been read.  Names are those of tags, with the letters as they are written. -/
inductive State where
  /-- The text of the script. -/
  | data
  /-- A less-than sign. -/
  | less
  /-- A less-than sign and a slash. -/
  | endOpen
  /-- The same, and a name. -/
  | endName (name : List Char)
  /-- The first two characters of a comment. -/
  | escapeStart
  /-- The first three characters of a comment. -/
  | escapeStartDash
  /-- Escaped text. -/
  | escaped (depth : Depth)
  /-- Escaped text and a dash. -/
  | escapedDash (depth : Depth)
  /-- Escaped text and two dashes or more. -/
  | escapedDashes (depth : Depth)
  /-- Escaped text and a less-than sign. -/
  | escapedLess (depth : Depth)
  /-- A less-than sign and a slash in a comment. -/
  | escapedEndOpen
  /-- The same, and a name. -/
  | escapedEndName (name : List Char)
  /-- A less-than sign and a name in a comment. -/
  | doubling (name : List Char)
  /-- A less-than sign, a slash and a name in a script in a comment. -/
  | undoubling (name : List Char)
  /-- The script has ended. -/
  | closed
  deriving DecidableEq

/-- A name ends where white space, a slash or a greater-than sign stands. -/
def endsName (c : Char) : Bool := c ∈ ['\t', '\n', '\x0c', ' ', '/', '>']

/-- The name is that of a script, in letters of any case. -/
def isScript (name : List Char) : Bool := name.map Char.toLower = "script".toList

/-- Where a character leads from the text of the script. -/
def fromData (c : Char) : State := if c = '<' then .less else .data

/-- Where a character leads from escaped text. -/
def fromEscaped (depth : Depth) (c : Char) : State :=
  if c = '-' then .escapedDash depth else if c = '<' then .escapedLess depth else .escaped depth

/-- Reads a character. -/
def step : State → Char → State
  | .data, c => fromData c
  | .less, c => if c = '/' then .endOpen else if c = '!' then .escapeStart else fromData c
  | .endOpen, c => if c.isAlpha then .endName [c] else fromData c
  | .endName name, c =>
    if c.isAlpha then .endName (name ++ [c])
    else if endsName c && isScript name then .closed else fromData c
  | .escapeStart, c => if c = '-' then .escapeStartDash else fromData c
  | .escapeStartDash, c => if c = '-' then .escapedDashes .once else fromData c
  | .escaped depth, c => fromEscaped depth c
  | .escapedDash depth, c => if c = '-' then .escapedDashes depth else fromEscaped depth c
  | .escapedDashes depth, c =>
    if c = '-' then .escapedDashes depth else if c = '>' then .data else fromEscaped depth c
  | .escapedLess .once, c =>
    if c = '/' then .escapedEndOpen
    else if c.isAlpha then .doubling [c] else fromEscaped .once c
  | .escapedLess .twice, c => if c = '/' then .undoubling [] else fromEscaped .twice c
  | .escapedEndOpen, c => if c.isAlpha then .escapedEndName [c] else fromEscaped .once c
  | .escapedEndName name, c =>
    if c.isAlpha then .escapedEndName (name ++ [c])
    else if endsName c && isScript name then .closed else fromEscaped .once c
  | .doubling name, c =>
    if c.isAlpha then .doubling (name ++ [c])
    else if endsName c then .escaped (if isScript name then .twice else .once)
    else fromEscaped .once c
  | .undoubling name, c =>
    if c.isAlpha then .undoubling (name ++ [c])
    else if endsName c then .escaped (if isScript name then .once else .twice)
    else fromEscaped .twice c
  | .closed, _ => .closed

/-- Reads a text. -/
def run (s : State) (text : List Char) : State := text.foldl step s

/-- What stands behind the end of a script, if it ends. -/
def after? : State → List Char → Option (List Char)
  | .closed, text => some text
  | _, [] => none
  | s, c :: text => after? (step s c) text

@[simp] theorem run_nil (s : State) : run s [] = s := rfl

@[simp] theorem run_cons (s : State) (c : Char) (text : List Char) :
    run s (c :: text) = run (step s c) text := rfl

theorem run_append (s : State) (a b : List Char) : run s (a ++ b) = run (run s a) b :=
  List.foldl_append

/-! ### Comments and script tags -/

/-- A script tag stands in the text. -/
def Opens (text : List Char) : Prop :=
  ∃ before name delimiter rest, text = before ++ '<' :: (name ++ delimiter :: rest) ∧
    isScript name ∧ endsName delimiter

/-- A comment is open at the end of the text, and for the deeper escaped text it has a script tag.
The dashes that open a comment may be those that close it. -/
def Escapes (depth : Depth) (text : List Char) : Prop :=
  ∃ before comment, text = before ++ "<!--".toList ++ comment ∧ (depth = .twice → Opens comment) ∧
    ¬ "-->".toList <:+: "--".toList ++ comment

theorem Opens.append_left {text : List Char} (h : Opens text) (front : List Char) :
    Opens (front ++ text) := by
  obtain ⟨before, name, delimiter, rest, rfl, hname⟩ := h
  exact ⟨front ++ before, name, delimiter, rest, (List.append_assoc ..).symm, hname⟩

theorem Escapes.append_left {depth : Depth} {text : List Char} (h : Escapes depth text)
    (front : List Char) : Escapes depth (front ++ text) := by
  obtain ⟨before, comment, rfl, hcomment⟩ := h
  exact ⟨front ++ before, comment, by simp only [List.append_assoc], hcomment⟩

/-! ### Where a state is -/

/-- Where a state is. -/
inductive Place where
  /-- In the text of the script. -/
  | outside
  /-- In escaped text. -/
  | inside (depth : Depth)
  /-- At or behind the slash of an end tag. -/
  | endTag
  deriving DecidableEq

/-- Where a state is. -/
def State.place : State → Place
  | .data | .less | .escapeStart | .escapeStartDash => .outside
  | .escaped depth | .escapedDash depth | .escapedDashes depth | .escapedLess depth =>
    .inside depth
  | .doubling _ => .inside .once
  | .endOpen | .endName _ | .escapedEndOpen | .escapedEndName _ | .undoubling _ | .closed =>
    .endTag

/-- The state is in escaped text of a depth or deeper. -/
def State.Within (s : State) (depth : Depth) : Prop :=
  ∃ depth', s.place = .inside depth' ∧ (depth = .twice → depth' = .twice)

/-- The characters behind a state with which a comment or a tag may begin. -/
def State.lead : State → List Char
  | .less | .escapedLess _ => ['<']
  | .escapeStart => ['<', '!']
  | .escapeStartDash => ['<', '!', '-']
  | .doubling name => '<' :: name
  | _ => []

/-- The dashes behind a state that may close a comment. -/
def State.dashes : State → List Char
  | .escapeStartDash | .escapedDash _ => ['-']
  | .escapedDashes _ => ['-', '-']
  | _ => []

/-! ### Moves in text without end tags -/

/-- What a character can do in text without end tags. -/
inductive Moves (c : Char) : State → State → Prop where
  /-- The text of the script goes on. -/
  | outside {s : State} (hs : s.place = .outside) : Moves c s (fromData c)
  /-- A comment may begin. -/
  | mark (hc : c = '!') : Moves c .less .escapeStart
  /-- It may go on. -/
  | firstDash (hc : c = '-') : Moves c .escapeStart .escapeStartDash
  /-- A comment begins. -/
  | secondDash (hc : c = '-') : Moves c .escapeStartDash (.escapedDashes .once)
  /-- Escaped text goes on. -/
  | inside {s : State} {depth : Depth} (hs : s.place = .inside depth)
      (hdash : c = '-' → s.dashes = []) (hclose : c = '>' → s.dashes ≠ ['-', '-']) :
      Moves c s (fromEscaped depth c)
  /-- A dash stands behind a dash. -/
  | dashes {s : State} {depth : Depth} (hs : s.place = .inside depth) (hc : c = '-')
      (hdashes : s.dashes ≠ []) : Moves c s (.escapedDashes depth)
  /-- The comment ends. -/
  | leave {depth : Depth} (hc : c = '>') : Moves c (.escapedDashes depth) .data
  /-- The name of a tag begins or goes on. -/
  | letter {s : State} {name : List Char} (hs : s.place = .inside .once)
      (hname : s.lead = '<' :: name) (hc : c.isAlpha) : Moves c s (.doubling (name ++ [c]))
  /-- The name of a script tag ends. -/
  | script {name : List Char} (hname : isScript name) (hc : endsName c) :
      Moves c (.doubling name) (.escaped .twice)

theorem fromEscaped_of_endsName {c : Char} (h : endsName c) (depth : Depth) :
    fromEscaped depth c = .escaped depth := by
  have hdash : c ≠ '-' := by rintro rfl; cases h
  have hless : c ≠ '<' := by rintro rfl; cases h
  rw [fromEscaped, if_neg hdash, if_neg hless]

/-- **Every step in text without end tags is one of the moves.** -/
theorem moves_step {s : State} {c : Char} (hs : s.place ≠ .endTag)
    (hc : c = '/' → s.lead ≠ ['<']) : Moves c s (step s c) := by
  cases s with
  | data => exact .outside rfl
  | less =>
    have hslash : c ≠ '/' := fun h => hc h rfl
    by_cases hmark : c = '!'
    · rw [step, if_neg hslash, if_pos hmark]
      exact .mark hmark
    · rw [step, if_neg hslash, if_neg hmark]
      exact .outside rfl
  | escapeStart =>
    by_cases hdash : c = '-'
    · rw [step, if_pos hdash]
      exact .firstDash hdash
    · rw [step, if_neg hdash]
      exact .outside rfl
  | escapeStartDash =>
    by_cases hdash : c = '-'
    · rw [step, if_pos hdash]
      exact .secondDash hdash
    · rw [step, if_neg hdash]
      exact .outside rfl
  | escaped depth => exact .inside rfl (fun _ => rfl) (fun _ => by simp [State.dashes])
  | escapedDash depth =>
    by_cases hdash : c = '-'
    · rw [step, if_pos hdash]
      exact .dashes rfl hdash (by simp [State.dashes])
    · rw [step, if_neg hdash]
      exact .inside rfl (fun h => absurd h hdash) (fun _ => by simp [State.dashes])
  | escapedDashes depth =>
    by_cases hdash : c = '-'
    · rw [step, if_pos hdash]
      exact .dashes rfl hdash (by simp [State.dashes])
    by_cases hclose : c = '>'
    · rw [step, if_neg hdash, if_pos hclose]
      exact .leave hclose
    · rw [step, if_neg hdash, if_neg hclose]
      exact .inside rfl (fun h => absurd h hdash) (fun h => absurd h hclose)
  | escapedLess depth =>
    have hslash : c ≠ '/' := fun h => hc h rfl
    have hgo : Moves c (.escapedLess depth) (fromEscaped depth c) :=
      .inside rfl (fun _ => rfl) (fun _ => by simp [State.dashes])
    cases depth with
    | once =>
      by_cases hletter : c.isAlpha
      · rw [step, if_neg hslash, if_pos hletter]
        have hlead : (State.escapedLess .once).lead = ['<'] := rfl
        exact .letter rfl hlead hletter
      · rw [step, if_neg hslash, if_neg hletter]
        exact hgo
    | twice =>
      rw [step, if_neg hslash]
      exact hgo
  | doubling name =>
    have hgo : Moves c (.doubling name) (fromEscaped .once c) :=
      .inside rfl (fun _ => rfl) (fun _ => by simp [State.dashes])
    by_cases hletter : c.isAlpha
    · rw [step, if_pos hletter]
      exact .letter rfl rfl hletter
    by_cases hends : endsName c
    · by_cases hscript : isScript name
      · rw [step, if_neg hletter, if_pos hends, if_pos hscript]
        exact .script hscript hends
      · rw [step, if_neg hletter, if_pos hends, if_neg hscript]
        exact fromEscaped_of_endsName hends .once ▸ hgo
    · rw [step, if_neg hletter, if_neg hends]
      exact hgo
  | _ => exact absurd rfl hs

theorem State.dashes_cases (s : State) :
    s.dashes = [] ∨ s.dashes = ['-'] ∨ s.dashes = ['-', '-'] := by
  cases s <;> simp [dashes]

/-- Two dashes and a greater-than sign do not begin with dashes that something else follows. -/
theorem infix_of_append_cons {dashes text : List Char} {c : Char}
    (hdashes : dashes = [] ∨ dashes = ['-'] ∨ dashes = ['-', '-']) (hc : c ≠ '-')
    (hclose : c = '>' → dashes ≠ ['-', '-']) (h : "-->".toList <:+: dashes ++ c :: text) :
    "-->".toList <:+: text := by
  change ['-', '-', '>'] <:+: _ at h
  rcases hdashes with rfl | rfl | rfl
  · simpa [List.infix_cons_iff, List.cons_prefix_cons, hc.symm] using h
  · simpa [List.infix_cons_iff, List.cons_prefix_cons, hc.symm] using h
  · have hc' : '>' ≠ c := fun heq => hclose heq.symm rfl
    simpa [List.infix_cons_iff, List.cons_prefix_cons, hc.symm, hc'] using h

namespace Moves

variable {c : Char} {s s' : State} {text : List Char}

theorem place_ne_endTag (h : Moves c s s') : s'.place ≠ .endTag := by
  cases h with
  | outside =>
    rw [fromData]
    split_ifs <;> simp [State.place]
  | inside =>
    rw [fromEscaped]
    split_ifs <;> simp [State.place]
  | _ => simp [State.place]

/-- What may begin a comment or a tag was read. -/
theorem lead_suffix (h : Moves c s s') : s'.lead <:+ s.lead ++ [c] := by
  cases h with
  | outside =>
    rw [fromData]
    split_ifs with hc <;> simp [State.lead, hc]
  | inside =>
    rw [fromEscaped]
    split_ifs with hdash hless
    · simp [State.lead]
    · simp [State.lead, hless]
    · simp [State.lead]
  | mark hc => simp [State.lead, hc]
  | firstDash hc => simp [State.lead, hc]
  | letter hs hname hc =>
    rw [hname]
    exact List.suffix_refl _
  | _ => simp [State.lead]

/-- So were the dashes that may close a comment. -/
theorem dashes_suffix (h : Moves c s s') : s'.dashes <:+ s.dashes ++ [c] := by
  cases h with
  | outside =>
    rw [fromData]
    split_ifs <;> simp [State.dashes]
  | inside =>
    rw [fromEscaped]
    split_ifs with hdash hless <;> simp [State.dashes, hdash]
  | firstDash hc => simp [State.dashes, hc]
  | secondDash hc => simp [State.dashes, hc]
  | dashes hs hc hdashes =>
    rcases s.dashes_cases with h | h | h
    · exact absurd h hdashes
    · rw [h, hc]
      exact ⟨[], rfl⟩
    · rw [h, hc]
      exact ⟨['-'], rfl⟩
  | _ => simp [State.dashes]

/-- In escaped text nothing else of what was read can close a comment. -/
theorem infix_dashes (h : Moves c s s') {depth depth' : Depth} (hs : s.place = .inside depth)
    (hs' : s'.place = .inside depth') (hpiece : "-->".toList <:+: s.dashes ++ c :: text) :
    "-->".toList <:+: s'.dashes ++ text := by
  cases h with
  | outside hout => cases hout.symm.trans hs
  | mark => cases hs
  | firstDash => cases hs
  | secondDash => cases hs
  | leave => cases hs'
  | inside _ hdash hclose =>
    rw [fromEscaped]
    split_ifs with hc hless
    · rw [hdash hc, hc] at hpiece
      exact hpiece
    · exact infix_of_append_cons s.dashes_cases hc hclose hpiece
    · exact infix_of_append_cons s.dashes_cases hc hclose hpiece
  | dashes _ hc hdashes =>
    rw [hc] at hpiece
    rcases s.dashes_cases with h | h | h
    · exact absurd h hdashes
    · rwa [h] at hpiece
    · rw [h] at hpiece
      exact (List.infix_cons_iff.1 hpiece).resolve_left (by simp)
  | letter _ hname hc =>
    have hdash : c ≠ '-' := by rintro rfl; cases hc
    exact infix_of_append_cons s.dashes_cases hdash (by rintro rfl; cases hc) hpiece
  | script _ hc =>
    have hdash : c ≠ '-' := by rintro rfl; cases hc
    exact infix_of_append_cons (.inl rfl) hdash (fun _ => by simp) hpiece

/-- What may begin a comment or a tag stands at the end of what was read. -/
theorem exists_lead_append (h : Moves c s s') (text : List Char) :
    ∃ front, s.lead ++ c :: text = front ++ (s'.lead ++ text) := by
  obtain ⟨front, hfront⟩ := h.lead_suffix
  exact ⟨front, by rw [← List.append_assoc, hfront, List.append_assoc, List.singleton_append]⟩

theorem infix_dashes_append (h : Moves c s s') (hpiece : "-->".toList <:+: s'.dashes ++ text) :
    "-->".toList <:+: s.dashes ++ c :: text := by
  obtain ⟨front, hfront⟩ := h.dashes_suffix
  have hsuffix : s'.dashes ++ text <:+ s.dashes ++ c :: text :=
    ⟨front, by rw [← List.append_assoc, hfront, List.append_assoc, List.singleton_append]⟩
  exact hpiece.trans hsuffix.isInfix

/-- Where a character leads in text without end tags. -/
theorem places (h : Moves c s s') :
    (s.place = .outside ∧ s'.place = .outside) ∨
    (s = .escapeStartDash ∧ c = '-' ∧ s' = .escapedDashes .once) ∨
    (∃ depth, s.place = .inside depth ∧ s'.place = .inside depth) ∨
    (∃ depth, s = .escapedDashes depth ∧ c = '>' ∧ s' = .data) ∨
    ∃ name, s = .doubling name ∧ isScript name ∧ endsName c ∧ s' = .escaped .twice := by
  cases h with
  | outside hs =>
    refine .inl ⟨hs, ?_⟩
    rw [fromData]
    split <;> rfl
  | mark => exact .inl ⟨rfl, rfl⟩
  | firstDash => exact .inl ⟨rfl, rfl⟩
  | secondDash hc => exact .inr (.inl ⟨rfl, hc, rfl⟩)
  | inside hs =>
    refine .inr (.inr (.inl ⟨_, hs, ?_⟩))
    rw [fromEscaped]
    split_ifs <;> rfl
  | dashes hs => exact .inr (.inr (.inl ⟨_, hs, rfl⟩))
  | leave hc => exact .inr (.inr (.inr (.inl ⟨_, rfl, hc, rfl⟩)))
  | letter hs => exact .inr (.inr (.inl ⟨_, hs, rfl⟩))
  | script hname hc => exact .inr (.inr (.inr (.inr ⟨_, rfl, hname, hc, rfl⟩)))

end Moves

/-! ### Text without end tags -/

/-- The text behind a state goes on without an end tag. -/
structure Untagged (s : State) (text : List Char) : Prop where
  place_ne : s.place ≠ .endTag
  notInfix : ¬ ['<', '/'] <:+: s.lead ++ text

namespace Untagged

variable {s : State} {c : Char} {text rest : List Char}

theorem moves (h : Untagged s (c :: text)) : Moves c s (step s c) := by
  refine moves_step h.place_ne ?_
  rintro rfl hlead
  refine h.notInfix ?_
  rw [hlead]
  exact (List.prefix_append ['<', '/'] text).isInfix

theorem tail (h : Untagged s (c :: text)) : Untagged (step s c) text := by
  refine ⟨h.moves.place_ne_endTag, fun hpiece => h.notInfix ?_⟩
  obtain ⟨front, hfront⟩ := h.moves.exists_lead_append text
  rw [hfront]
  exact hpiece.trans (List.suffix_append front _).isInfix

/-- So does a part of it. -/
theorem left (h : Untagged s (text ++ rest)) : Untagged s text :=
  ⟨h.place_ne, fun hpiece => h.notInfix (by
    rw [← List.append_assoc]
    exact hpiece.trans (List.prefix_append _ rest).isInfix)⟩

/-- And so does the text behind a part of it. -/
theorem of_append (h : Untagged s (text ++ rest)) : Untagged (run s text) rest := by
  induction text generalizing s with
  | nil => exact h
  | cons c text ih => exact ih h.tail

end Untagged

/-! ### Escaped text is that of an open comment -/

theorem within_twice_iff {s : State} : s.Within .twice ↔ s.place = .inside .twice := by
  constructor
  · rintro ⟨depth, hs, hdepth⟩
    rw [hs, hdepth rfl]
  · exact fun hs => ⟨.twice, hs, fun _ => rfl⟩

theorem within_once_iff {s : State} : s.Within .once ↔ ∃ depth, s.place = .inside depth := by
  simp [State.Within]

/-- What a text has to do to lead into escaped text, when a state is what was read before. -/
def WillEscape (depth : Depth) (s : State) (text : List Char) : Prop :=
  match s.place with
  | .outside => Escapes depth (s.lead ++ text)
  | .inside .once => Escapes depth text ∨
    (depth = .twice → Opens (s.lead ++ text)) ∧ ¬ "-->".toList <:+: s.dashes ++ text
  | .inside .twice => Escapes depth text ∨ ¬ "-->".toList <:+: s.dashes ++ text
  | .endTag => False

theorem Moves.willEscape {depth : Depth} {c : Char} {s s' : State} {text : List Char}
    (hmoves : Moves c s s') (h : WillEscape depth s' text) : WillEscape depth s (c :: text) := by
  obtain ⟨front, hfront⟩ := hmoves.exists_lead_append text
  rcases hmoves.places with ⟨hs, hs'⟩ | ⟨rfl, rfl, rfl⟩ | ⟨inner, hs, hs'⟩ |
    ⟨inner, rfl, rfl, rfl⟩ | ⟨name, rfl, hname, hc, rfl⟩
  · simp only [WillEscape, hs, hs'] at h ⊢
    rw [hfront]
    exact h.append_left front
  · -- a comment begins
    rcases h with h | ⟨hopens, hpiece⟩
    · exact h.append_left "<!--".toList
    · exact ⟨[], text, rfl, hopens, hpiece⟩
  · have hpiece : "-->".toList <:+: s.dashes ++ c :: text → "-->".toList <:+: s'.dashes ++ text :=
      hmoves.infix_dashes hs hs'
    cases inner with
    | once =>
      simp only [WillEscape, hs, hs'] at h ⊢
      rw [hfront]
      exact h.imp (fun h => h.append_left [c]) fun ⟨hopens, hnot⟩ =>
        ⟨fun hdepth => (hopens hdepth).append_left front, fun h => hnot (hpiece h)⟩
    | twice =>
      simp only [WillEscape, hs, hs'] at h ⊢
      exact h.imp (fun h => h.append_left [c]) fun hnot h => hnot (hpiece h)
  · -- only a new comment can be open
    have hescapes : Escapes depth ('>' :: text) := Escapes.append_left h ['>']
    cases inner with
    | once => exact .inl hescapes
    | twice => exact .inl hescapes
  · -- a script begins in the comment
    refine h.imp (fun h => h.append_left [c]) fun hnot => ⟨fun _ => ?_, ?_⟩
    · exact ⟨[], name, c, text, rfl, hname, hc⟩
    · exact fun h => hnot (hmoves.infix_dashes rfl rfl h)

/-- A text that leads into escaped text has opened a comment and not closed it. -/
theorem willEscape_of_within {depth : Depth} {s : State} {text : List Char} (h : Untagged s text)
    (hwithin : (run s text).Within depth) : WillEscape depth s text := by
  induction text generalizing s with
  | nil =>
    have hdashes : ¬ "-->".toList <:+: s.dashes ++ [] := by
      rcases s.dashes_cases with h | h | h <;> rw [h] <;> decide
    obtain ⟨inner, hs, hdepth⟩ := hwithin
    rw [run_nil] at hs
    cases inner with
    | once =>
      simp only [WillEscape, hs]
      have hnever : depth ≠ .twice := fun htwice => nomatch hdepth htwice
      exact .inr ⟨fun htwice => absurd htwice hnever, hdashes⟩
    | twice =>
      simp only [WillEscape, hs]
      exact .inr hdashes
  | cons c text ih => exact h.moves.willEscape (ih h.tail hwithin)

namespace Untagged

variable {s : State} {depth : Depth} {text : List Char}

/-- What closes a comment was read before or is read now. -/
theorem infix_dashes_run {rest : List Char} (h : Untagged s text)
    (hpiece : "-->".toList <:+: (run s text).dashes ++ rest) :
    "-->".toList <:+: s.dashes ++ (text ++ rest) := by
  induction text generalizing s with
  | nil => exact hpiece
  | cons c text ih => exact h.moves.infix_dashes_append (ih h.tail hpiece)

/-- Escaped text that does not close its comment is escaped to its end, and a script in the comment
does not end in it. -/
theorem stays (h : Untagged s text) (hs : s.Within depth)
    (hnot : ¬ "-->".toList <:+: s.dashes ++ text) : (run s text).Within depth := by
  induction text generalizing s with
  | nil => exact hs
  | cons c text ih =>
    have hmoves := h.moves
    have hnot' : ¬ "-->".toList <:+: (step s c).dashes ++ text := fun h =>
      hnot (hmoves.infix_dashes_append h)
    obtain ⟨inner, hs, hdepth⟩ := hs
    rcases hmoves.places with ⟨hout, -⟩ | ⟨rfl, -, -⟩ | ⟨inner', hs', hstep⟩ |
      ⟨inner', rfl, rfl, -⟩ | ⟨name, rfl, -, -, hstep⟩
    · cases hout.symm.trans hs
    · cases hs
    · obtain rfl : inner = inner' := Place.inside.inj (hs.symm.trans hs')
      exact ih h.tail ⟨inner, hstep, hdepth⟩ hnot'
    · exact absurd (List.prefix_append "-->".toList text).isInfix hnot
    · exact ih h.tail ⟨.twice, congrArg State.place hstep, fun _ => rfl⟩ hnot'

end Untagged

theorem step_less_of_outside {s : State} (hs : s.place = .outside) : step s '<' = .less := by
  cases s <;> first | rfl | cases hs

theorem step_less_of_inside {s : State} {depth : Depth} (hs : s.place = .inside depth) :
    step s '<' = .escapedLess depth := by
  cases s with
  | escapedLess depth => cases hs; cases depth <;> rfl
  | _ => first | (cases hs; rfl) | cases hs

/-- The beginning of a comment leads into escaped text from everywhere. -/
theorem run_comment {s : State} (hs : s.place ≠ .endTag) :
    ∃ depth, run s "<!--".toList = .escapedDashes depth := by
  change ∃ depth, run (step s '<') "!--".toList = .escapedDashes depth
  cases hplace : s.place with
  | outside =>
    rw [step_less_of_outside hplace]
    exact ⟨.once, rfl⟩
  | inside depth =>
    rw [step_less_of_inside hplace]
    cases depth <;> exact ⟨_, rfl⟩
  | endTag => exact absurd hplace hs

/-- The name of a script has letters only. -/
theorem isAlpha_of_isScript {name : List Char} (h : isScript name) : ∀ c ∈ name, c.isAlpha := by
  intro c hc
  have hletters : ∀ d ∈ "script".toList, d.isAlpha := List.all_eq_true.1 (by decide)
  have hmem : c.toLower ∈ "script".toList := by
    rw [isScript, decide_eq_true_eq] at h
    exact h ▸ List.mem_map_of_mem hc
  by_cases hupper : c.val ≥ 'A'.val ∧ c.val ≤ 'Z'.val
  · have hc : c.isUpper = true := decide_eq_true hupper
    exact Bool.or_eq_true_iff.2 (.inl hc)
  · have hlower : c.toLower = c := dif_neg hupper
    exact hletters c (hlower ▸ hmem)

theorem not_isAlpha_of_endsName {c : Char} (h : endsName c) : ¬ c.isAlpha := by
  have hnone : ['\t', '\n', '\x0c', ' ', '/', '>'].all (!·.isAlpha) := by decide
  have hc := List.all_eq_true.1 hnone c (of_decide_eq_true h)
  simpa using hc

theorem run_doubling {name more : List Char} (h : ∀ c ∈ more, c.isAlpha) :
    run (.doubling name) more = .doubling (name ++ more) := by
  induction more generalizing name with
  | nil => rw [run_nil, List.append_nil]
  | cons c more ih =>
    rw [run_cons, step, if_pos (h c List.mem_cons_self),
      ih fun d hd => h d (List.mem_cons_of_mem _ hd), List.append_assoc, List.singleton_append]

/-- A script tag in a comment leads into a script in it. -/
theorem run_scriptTag {s : State} {name : List Char} {delimiter : Char}
    (hs : s.place = .inside .once) (hname : isScript name) (hdelimiter : endsName delimiter) :
    run s ('<' :: (name ++ [delimiter])) = .escaped .twice := by
  have hletters := isAlpha_of_isScript hname
  cases name with
  | nil => cases hname
  | cons c name =>
    have hc := hletters c List.mem_cons_self
    have hslash : c ≠ '/' := by rintro rfl; cases hc
    rw [run_cons, step_less_of_inside hs, List.cons_append, run_cons, step, if_neg hslash,
      if_pos hc, run_append, run_doubling fun d hd => hletters d (List.mem_cons_of_mem _ hd)]
    rw [run_cons, step, if_neg (not_isAlpha_of_endsName hdelimiter), if_pos hdelimiter,
      List.singleton_append, if_pos hname, run_nil]

/-- In an open comment a script tag leads into a script. -/
theorem within_run_of_opens {s : State} {text : List Char} (h : Untagged s text)
    (hs : s.place = .inside .once) (hopens : Opens text)
    (hnot : ¬ "-->".toList <:+: s.dashes ++ text) : (run s text).Within .twice := by
  obtain ⟨before, name, delimiter, rest, rfl, hname, hdelimiter⟩ := hopens
  have hbefore : ¬ "-->".toList <:+: s.dashes ++ before := fun hpiece => hnot (by
    rw [← List.append_assoc]
    exact hpiece.trans (List.prefix_append _ _).isInfix)
  obtain ⟨depth, hplace, -⟩ := h.left.stays (within_once_iff.2 ⟨_, hs⟩) hbefore
  have hnot' := fun hpiece => hnot (h.left.infix_dashes_run hpiece)
  have hafter := h.of_append
  rw [run_append]
  cases depth with
  | once =>
    -- what is left is the tag and the text behind it
    have htag : '<' :: (name ++ delimiter :: rest) = '<' :: (name ++ [delimiter]) ++ rest := by
      simp
    rw [htag] at hafter ⊢
    have hrest := hafter.of_append
    rw [run_append]
    rw [run_scriptTag hplace hname hdelimiter] at hrest ⊢
    have hnone : ¬ "-->".toList <:+: (State.escaped .twice).dashes ++ rest := fun hpiece =>
      hnot (hpiece.trans ⟨s.dashes ++ before ++ '<' :: (name ++ [delimiter]), [], by
        simp [State.dashes]⟩)
    exact hrest.stays (within_twice_iff.2 rfl) hnone
  | twice => exact hafter.stays (within_twice_iff.2 hplace) hnot'

/-- An open comment leads into escaped text. -/
theorem within_run_of_escapes {depth : Depth} {s : State} {text : List Char} (h : Untagged s text)
    (hescapes : Escapes depth text) : (run s text).Within depth := by
  obtain ⟨before, comment, rfl, hopens, hnot⟩ := hescapes
  rw [List.append_assoc] at h
  obtain ⟨inner, hcomment⟩ := run_comment h.of_append.place_ne
  have hafter := h.of_append.of_append
  rw [List.append_assoc, run_append, run_append]
  rw [hcomment] at hafter ⊢
  by_cases hstays : depth = .twice → inner = .twice
  · exact hafter.stays ⟨inner, rfl, hstays⟩ hnot
  · obtain ⟨rfl, hinner⟩ := Classical.not_imp.1 hstays
    cases inner with
    | once => exact within_run_of_opens hafter rfl (hopens rfl) hnot
    | twice => exact absurd rfl hinner

/-- **Text without end tags leads into escaped text exactly when it leaves a comment open**, and
into a script in the comment exactly when the comment has a script tag. -/
theorem within_run_iff {depth : Depth} {text : List Char} (h : ¬ ['<', '/'] <:+: text) :
    (run .data text).Within depth ↔ Escapes depth text :=
  have huntagged : Untagged .data text := ⟨nofun, h⟩
  ⟨willEscape_of_within huntagged, within_run_of_escapes huntagged⟩

/-- It never leads into an end tag. -/
theorem place_run_ne_endTag {text : List Char} (h : ¬ ['<', '/'] <:+: text) :
    (run .data text).place ≠ .endTag := by
  have huntagged : Untagged .data (text ++ []) := ⟨nofun, by rwa [List.append_nil]⟩
  exact huntagged.of_append.place_ne

/-! ### What stands around a text -/

theorem Opens.less_mem {text : List Char} (h : Opens text) : '<' ∈ text := by
  obtain ⟨before, name, delimiter, rest, rfl, -⟩ := h
  simp

theorem Escapes.less_mem {depth : Depth} {text : List Char} (h : Escapes depth text) :
    '<' ∈ text := by
  obtain ⟨before, comment, rfl, -⟩ := h
  simp

theorem not_infix_of_less_notMem {text : List Char} (h : '<' ∉ text) : ¬ ['<', '/'] <:+: text :=
  fun hpiece => h (hpiece.subset List.mem_cons_self)

theorem run_data_of_less_notMem {text : List Char} (h : '<' ∉ text) : run .data text = .data := by
  induction text with
  | nil => rfl
  | cons c text ih =>
    rw [List.mem_cons, not_or] at h
    rw [run_cons, step, fromData, if_neg (Ne.symm h.1), ih h.2]

/-- Text without less-than signs leaves escaped text as deep as it is, unless it closes the
comment. -/
theorem within_run_escaped_iff {depth inner : Depth} {text : List Char} (h : '<' ∉ text)
    (hclose : ¬ "-->".toList <:+: text) :
    (run (.escaped inner) text).Within depth ↔ (State.escaped inner).Within depth := by
  have huntagged : Untagged (.escaped inner) text := ⟨nofun, not_infix_of_less_notMem h⟩
  constructor
  · intro hwithin
    refine ⟨inner, rfl, fun htwice => ?_⟩
    cases inner with
    | twice => rfl
    | once =>
      rcases willEscape_of_within huntagged hwithin with hescapes | ⟨hopens, -⟩
      · exact absurd hescapes.less_mem h
      · exact absurd (hopens htwice).less_mem h
  · exact fun hs => huntagged.stays hs hclose

/-- Other characters than letters and those of comments and tags begin nothing.  Where no name ends
in front of them, escaped text stays as deep as it is. -/
theorem step_plain {s : State} {c : Char} (hs : s.place ≠ .endTag)
    (hc : c ∉ ['!', '-', '<', '>', '/']) (hletter : ¬ c.isAlpha) :
    (s.place = .outside ∧ step s c = .data) ∨
      ∃ depth depth', s.place = .inside depth ∧ step s c = .escaped depth' ∧
        (¬ endsName c → depth' = depth) := by
  simp only [List.mem_cons, List.not_mem_nil, or_false, not_or] at hc
  obtain ⟨hmark, hdash, hless, hclose, hslash⟩ := hc
  have hdata : fromData c = .data := if_neg hless
  have hescaped (depth : Depth) : fromEscaped depth c = .escaped depth := by
    rw [fromEscaped, if_neg hdash, if_neg hless]
  have hmoves := moves_step hs fun h => absurd h hslash
  generalize step s c = s' at hmoves ⊢
  cases hmoves with
  | outside hs => exact .inl ⟨hs, hdata⟩
  | mark h => exact absurd h hmark
  | firstDash h => exact absurd h hdash
  | secondDash h => exact absurd h hdash
  | inside hs => exact .inr ⟨_, _, hs, hescaped _, fun _ => rfl⟩
  | dashes _ h => exact absurd h hdash
  | leave h => exact absurd h hclose
  | letter _ _ h => exact absurd h hletter
  | script _ h => exact .inr ⟨.once, .twice, rfl, rfl, fun hnot => absurd h hnot⟩

/-- **Code without less-than signs neither opens a comment nor closes one.** -/
theorem escapes_between_iff {depth : Depth} {front text back : List Char}
    (htags : ¬ ['<', '/'] <:+: front ++ (text ++ ';' :: back)) (hfront : '<' ∉ front)
    (hback : '<' ∉ back) (hclose : ¬ "-->".toList <:+: back) :
    Escapes depth (front ++ (text ++ ';' :: back)) ↔ Escapes depth text := by
  have htext : ¬ ['<', '/'] <:+: text := fun hpiece =>
    htags (hpiece.trans ⟨front, ';' :: back, List.append_assoc ..⟩)
  rw [← within_run_iff htags, ← within_run_iff htext, run_append,
    run_data_of_less_notMem hfront, run_append, run_cons]
  -- the semicolon behind the text ends what the text has begun
  rcases step_plain (c := ';') (place_run_ne_endTag htext) (by decide) (by decide) with
    ⟨hplace, hstep⟩ | ⟨inner, inner', hplace, hstep, hkeeps⟩
  · rw [hstep, run_data_of_less_notMem hback, State.Within, State.Within, hplace]
    rfl
  · rw [hstep, hkeeps (by decide), within_run_escaped_iff hback hclose, State.Within, State.Within,
      hplace]
    rfl

/-! ### Behind the script -/

theorem after?_cons {s : State} (hs : s ≠ .closed) (c : Char) (text : List Char) :
    after? s (c :: text) = after? (step s c) text := by
  rw [after?]
  exact hs

theorem after?_closed (text : List Char) : after? .closed text = some text := by
  rw [after?]

theorem run_closed (text : List Char) : run .closed text = .closed := by
  induction text with
  | nil => rfl
  | cons c text ih => exact ih

/-- A text that does not end the script is read up to its end. -/
theorem after?_append {s : State} {text : List Char} (h : run s text ≠ .closed)
    (rest : List Char) : after? s (text ++ rest) = after? (run s text) rest := by
  induction text generalizing s with
  | nil => rfl
  | cons c text ih =>
    have hs : s ≠ .closed := by
      rintro rfl
      exact h (run_closed _)
    rw [List.cons_append, after?_cons hs, ih h, run_cons]

/-- An end tag ends the script, also in a comment. -/
theorem after?_tag {s : State} (h : s = .data ∨ s = .escaped .once) (rest : List Char) :
    after? s ("</script>".toList ++ rest) = some rest := by
  have hread : ∀ name, run s "</script".toList = name → name ≠ .closed → step name '>' = .closed →
      after? s ("</script>".toList ++ rest) = some rest := by
    rintro _ rfl hne hclosed
    refine (after?_append hne ('>' :: rest)).trans ?_
    rw [after?_cons hne, hclosed, after?_closed]
  rcases h with rfl | rfl
  · exact hread (.endName "script".toList) rfl (by decide) rfl
  · exact hread (.escapedEndName "script".toList) rfl (by decide) rfl

/-- **An end tag on a line of its own ends a script unless the script hides it.**  When it does, the
tag is the end of the script in the comment, and the text behind it is a part of the comment. -/
theorem after?_endTag {lines : List Char} (h : ¬ ['<', '/'] <:+: lines ++ ['\n'])
    (rest : List Char) :
    (¬ Escapes .twice (lines ++ ['\n']) →
      after? .data (lines ++ ['\n'] ++ "</script>".toList ++ rest) = some rest) ∧
    (Escapes .twice (lines ++ ['\n']) →
      after? .data (lines ++ ['\n'] ++ "</script>".toList ++ rest) =
        after? (.escaped .once) rest) := by
  have huntagged : Untagged .data (lines ++ ['\n']) := ⟨nofun, h⟩
  have hrun : run .data (lines ++ ['\n']) = step (run .data lines) '\n' := run_append ..
  have hplace := within_twice_iff.symm.trans (within_run_iff h)
  have hopen : run .data (lines ++ ['\n']) ≠ .closed := fun hclosed =>
    place_run_ne_endTag h (congrArg State.place hclosed)
  rw [List.append_assoc, after?_append hopen]
  rw [hrun] at hplace ⊢
  rcases step_plain (c := '\n') huntagged.of_append.place_ne (by decide) (by decide) with
    ⟨-, heq⟩ | ⟨-, depth, -, heq, -⟩
  · rw [heq] at hplace ⊢
    exact ⟨fun _ => after?_tag (.inl rfl) rest, fun hides => nomatch hplace.2 hides⟩
  · rw [heq] at hplace ⊢
    cases depth with
    | once => exact ⟨fun _ => after?_tag (.inr rfl) rest, fun hides => nomatch hplace.2 hides⟩
    | twice =>
      refine ⟨fun hnot => absurd (hplace.1 rfl) hnot, fun _ => ?_⟩
      have htag : run (.escaped .twice) "</script>".toList ≠ .closed := by decide
      exact after?_append htag rest

end BenchReport.ScriptData
