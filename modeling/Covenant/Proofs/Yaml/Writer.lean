import Covenant.Proofs.Yaml.Style

/-!
# The writer's steps

`exec f w` is the writer after running `f` from `w`. Each step of the YAML writer is described
by what it appends to the text and how it leaves the flags that the next step reads:

* `Writer.Ended w text`: once the current line is ended, the text is `text`. A line that is
  still open is ended by the next indentation with a line feed; a literal block that ended with a
  line feed has already ended it.
* `Writer.Continues w w' text`: `w'` continues the line of `w` with `text` and stands after
  something that is not blank.

A scalar is written after a space unless the writer stands at a blank (`sep`). Plain, quoted and
one-line single-quoted scalars continue the line with their text; a literal block writes its
header, then its content lines indented one level inside its owner.
-/

namespace Covenant.Yaml.Emit

/-- The writer after running `f` from `w`. -/
def exec (f : EmitM Unit) (w : Writer) : Writer := (f.run w).2

theorem exec_bind (x : EmitM Unit) (f : Unit → EmitM Unit) (w : Writer) :
    exec (x >>= f) w = exec (f ()) (exec x w) := rfl

theorem run_bind {α β : Type} (x : EmitM α) (f : α → EmitM β) (w : Writer) :
    (x >>= f).run w = (f (x.run w).1).run (x.run w).2 := rfl

theorem run_snd (f : EmitM Unit) (w : Writer) : (f.run w).2 = exec f w := rfl

/-- The text once the current line is ended. -/
def Writer.Ended (w : Writer) (text : String) : Prop :=
  (w.indention = false ∧ text = w.out ++ "\n") ∨
    (w.indention = true ∧ w.column = 0 ∧ w.whitespace = true ∧ text = w.out)

/-- `w'` continues the line of `w` with `text`, after something that is not blank. -/
structure Writer.Continues (w w' : Writer) (text : String) : Prop where
  out : w'.out = w.out ++ text
  whitespace : w'.whitespace = false
  indention : w'.indention = false
  openEnded : w'.openEnded = w.openEnded

theorem Writer.Continues.ended {w w' : Writer} {text : String} (h : w.Continues w' text) :
    w'.Ended (w.out ++ text ++ "\n") :=
  .inl ⟨h.indention, by rw [h.out]⟩

theorem Writer.Continues.trans {w w' w'' : Writer} {s t : String} (h : w.Continues w' s)
    (h' : w'.Continues w'' t) : w.Continues w'' (s ++ t) :=
  ⟨by rw [h'.out, h.out, String.append_assoc], h'.whitespace, h'.indention,
    by rw [h'.openEnded, h.openEnded]⟩

/-- The space written before a scalar unless the writer stands at a blank. -/
def sep (w : Writer) : String := if w.whitespace then "" else " "

/-- Appends a text to the current line. -/
def appendTo (text : String) (w : Writer) : Writer :=
  { w with out := w.out ++ text, column := w.column + text.length }

theorem foldl_appendTo (text : Char → String) (cs : List Char) (w : Writer) :
    cs.foldl (fun w c => appendTo (text c) w) w = appendTo (String.join (cs.map text)) w := by
  induction cs generalizing w with
  | nil => simp [appendTo]
  | cons c cs ih =>
    rw [List.foldl_cons, ih]
    simp [appendTo, String.append_assoc, Nat.add_assoc]

/-- A loop whose every step goes on, while an invariant holds, is a fold of its steps. -/
theorem run_forIn_of_yield {β : Type} (f : Char → β → EmitM (ForInStep β))
    (step : Char → β × Writer → β × Writer) (inv : β × Writer → Prop) (cs : List Char)
    (hf : ∀ c ∈ cs, ∀ b w, inv (b, w) →
      (f c b).run w = (ForInStep.yield (step c (b, w)).1, (step c (b, w)).2) ∧ inv (step c (b, w)))
    (b : β) (w : Writer) (hinv : inv (b, w)) :
    (forIn cs b f).run w = cs.foldl (fun acc c => step c acc) (b, w) := by
  induction cs generalizing b w with
  | nil => rfl
  | cons c cs ih =>
    obtain ⟨hrun, hnext⟩ := hf c (List.mem_cons_self ..) b w hinv
    rw [List.forIn_cons, StateT.run_bind, hrun]
    exact ih (fun d hd => hf d (List.mem_cons_of_mem _ hd)) _ _ hnext

/-- A loop with no state of its own whose every step goes on, while an invariant holds, is a fold
of its steps. -/
theorem exec_forIn_of_yield (f : Char → PUnit → EmitM (ForInStep PUnit))
    (step : Char → Writer → Writer) (inv : Writer → Prop) (cs : List Char)
    (hf : ∀ c ∈ cs, ∀ w, inv w → (f c ()).run w = (ForInStep.yield (), step c w) ∧ inv (step c w))
    (w : Writer) (hinv : inv w) :
    exec (forIn cs () f) w = cs.foldl (fun w c => step c w) w := by
  induction cs generalizing w with
  | nil => rfl
  | cons c cs ih =>
    obtain ⟨hrun, hnext⟩ := hf c (List.mem_cons_self ..) w hinv
    unfold exec at ih ⊢
    rw [List.forIn_cons, StateT.run_bind, hrun]
    exact ih (fun d hd => hf d (List.mem_cons_of_mem _ hd)) _ hnext

theorem foldl_pair_appendTo {β : Type} (b : β) (text : Char → String) (cs : List Char)
    (w : Writer) :
    cs.foldl (fun acc c => (b, appendTo (text c) acc.2)) (b, w) =
      (b, appendTo (String.join (cs.map text)) w) := by
  induction cs generalizing w with
  | nil => simp [appendTo]
  | cons c cs ih =>
    rw [List.foldl_cons, ih]
    simp [appendTo, String.append_assoc, Nat.add_assoc]

section Steps

theorem exec_writeIndicator (s : String) (need isWs isInd : Bool) (w : Writer) :
    exec (writeIndicator s need isWs isInd) w =
      { w with out := w.out ++ (if need then sep w else "") ++ s,
               column := w.column + (if need then sep w else "").length + s.length,
               whitespace := isWs, indention := w.indention && isInd } := by
  obtain ⟨out, column, ws, ind, oe⟩ := w
  cases need <;> cases ws <;>
    simp [exec, writeIndicator, sep, put, putStr, String.push_eq_append, Nat.add_assoc] <;> rfl

theorem exec_writeIndent_of_ended {w : Writer} {text : String} (h : w.Ended text) (n : Nat) :
    exec (writeIndent n) w =
      { w with out := text ++ spaces n, column := n, whitespace := true, indention := true } := by
  obtain ⟨out, column, ws, ind, oe⟩ := w
  rcases h with ⟨h1, rfl⟩ | ⟨h1, h2, h3, rfl⟩
  · cases h1
    simp [exec, writeIndent, putBreak, putStr, spaces, String.push_eq_append]
    rfl
  · cases h1
    cases h2
    cases h3
    simp [exec, writeIndent, putStr, spaces]
    rfl

/-- Right after an item's `-`, the indentation of its value only adds a space. -/
theorem exec_writeIndent_after_dash (w : Writer) (n : Nat) (hind : w.indention = true)
    (hcol : w.column + 1 = n) :
    exec (writeIndent n) w =
      { w with out := w.out ++ " ", column := n, whitespace := true, indention := true } := by
  obtain ⟨out, column, ws, ind, oe⟩ := w
  cases hind
  subst hcol
  have hlt : ¬ column + 1 < column := by omega
  have hsub : column + 1 - column = 1 := by omega
  simp [exec, writeIndent, putStr, hlt, hsub]
  rfl

end Steps

section Scalars

variable {w : Writer}

theorem continues_writePlain {s : String} (hs : s ≠ "" ∨ w.whitespace = true) :
    w.Continues (exec (writePlain s) w) (sep w ++ s) := by
  obtain ⟨out, column, ws, ind, oe⟩ := w
  cases ws
  · have hempty : s.isEmpty = false := by simpa using hs.resolve_right (by simp)
    simp [exec, writePlain, sep, put, putStr, hempty, String.push_eq_append, String.append_assoc]
    exact ⟨rfl, rfl, rfl, rfl⟩
  · simp [exec, writePlain, sep, putStr]
    exact ⟨rfl, rfl, rfl, rfl⟩

theorem continues_writeDoubleQuoted (s : String) :
    w.Continues (exec (writeDoubleQuoted s) w) (sep w ++ doubleQuotedText s) := by
  unfold writeDoubleQuoted
  rw [exec_bind, exec_bind, exec_bind,
    exec_forIn_of_yield _ (fun c => appendTo (doubleQuotedChar c)) (fun _ => True) _ ?step _ trivial,
    foldl_appendTo]
  · simp only [exec_writeIndicator, appendTo, doubleQuotedText, if_true]
    refine ⟨?_, rfl, rfl, rfl⟩
    simp only [exec, String.append_assoc]
    rfl
  case step =>
    intro c _ w _
    refine ⟨?_, trivial⟩
    simp only [appendTo, doubleQuotedChar]
    split
    · rename_i h
      have hn : needsEscape c = true := h
      simp only [hn, if_true, putStr]
      rfl
    · rename_i h
      have hn : needsEscape c = false := Bool.eq_false_iff.mpr h
      have hlen : c.toString.length = 1 := String.length_singleton
      simp only [hn, Bool.false_eq_true, if_false, put, String.push_eq_append, hlen]
      rfl

/-- A single-quoted scalar without breaks continues the line with its quoted text. -/
theorem continues_writeSingleQuoted (s : String) (inner : Int)
    (hs : ∀ c ∈ s.toList, isBreak c = false) :
    w.Continues (exec (writeSingleQuoted s inner) w) (sep w ++ singleQuotedText s) := by
  unfold writeSingleQuoted exec
  simp only [run_bind]
  rw [run_forIn_of_yield _ (fun c acc => (false, appendTo (singleQuotedChar c) acc.2))
      (fun acc => acc.1 = false ∧ acc.2.indention = false) _ ?step _ _ ⟨rfl, ?ind⟩,
    foldl_pair_appendTo]
  · simp only [Bool.false_eq_true, if_false, run_snd, exec_bind, exec_writeIndicator]
    refine ⟨?_, rfl, rfl, rfl⟩
    simp only [exec, appendTo, singleQuotedText, String.append_assoc, if_true]
    rfl
  case ind => simp [run_snd, exec_writeIndicator]
  case step =>
    rintro c hc b ⟨out, column, ws, ind, oe⟩ ⟨rfl, hind⟩
    cases hind
    have hb : isBreak c = false := hs c hc
    refine ⟨?_, rfl, rfl⟩
    by_cases hq : c = '\''
    · subst hq
      have hout : out ++ "''" = (out.push '\'').push '\'' := by
        have hquotes : "''".toList = ['\'', '\''] := by decide
        simp [String.ext_iff, String.toList_append, String.toList_push, hquotes]
      simp only [hb, Bool.false_eq_true, if_false, if_true, appendTo, singleQuotedChar]
      rw [hout, show "''".length = 1 + 1 from rfl, ← Nat.add_assoc]
      rfl
    · have hout : out ++ c.toString = out.push c := (String.push_eq_append c).symm
      have hlen : c.toString.length = 1 := String.length_singleton
      simp only [hb, hq, Bool.false_eq_true, if_false, appendTo, singleQuotedChar]
      rw [hout, hlen]
      rfl

end Scalars

end Covenant.Yaml.Emit
