import Covenant.Proofs.Yaml.Writer

/-!
# The rendering follows its layout

A value whose keys are simple keys and whose strings hold no line break is written by the
emitter exactly as `rows` lays it out (`render_eq_rowsText`). The writer moves between three
places: at the end of a lead (`Writer.At`), right after an item's dash (`Writer.AfterDash`),
and inside a line it has not ended (`Writer.InLine`). Each item, mapping entry, sequence and
mapping is written from one of them and leaves the writer with its rows ended; an item's
value that is a collection starts on the item's row, a key's on the next row.
-/

namespace Covenant.Yaml.Emit

open Layout

/-- A value the emitter writes one row per line: every key is a simple key and no string holds
a line break. -/
structure Breakless (v : Json) : Prop where
  strings : ∀ s, Json.Occurs (.str s) v → ∀ c ∈ s.toList, isBreak c = false
  keys : ∀ fields, Json.Occurs (.obj fields) v → ∀ e ∈ fields, isSimpleKey e.1 = true

theorem Breakless.of_occurs {x v : Json} (hv : Breakless v) (hx : Json.Occurs x v) :
    Breakless x :=
  ⟨fun s hs => hv.strings s (hs.trans hx), fun fields hf => hv.keys fields (hf.trans hx)⟩

theorem Breakless.item {x : Json} {items : List Json} (hv : Breakless (.arr items))
    (hx : x ∈ items) : Breakless x :=
  hv.of_occurs (.item hx (.refl x))

theorem Breakless.field {k : String} {x : Json} {fields : List (String × Json)}
    (hv : Breakless (.obj fields)) (hx : (k, x) ∈ fields) : Breakless x :=
  hv.of_occurs (.field hx (.refl x))

theorem Breakless.key {k : String} {x : Json} {fields : List (String × Json)}
    (hv : Breakless (.obj fields)) (hx : (k, x) ∈ fields) : isSimpleKey k = true :=
  hv.keys fields (.refl _) (k, x) hx

/-! ## Where the writer stands -/

/-- At the end of a lead: the text so far is `pre` and the lead, on the lead's column. -/
structure Writer.At (w : Writer) (pre : String) (lead : Lead) : Prop where
  out : w.out = pre ++ lead.text
  column : w.column = lead.column
  whitespace : w.whitespace = true
  indention : w.indention = true

/-- Right after the last dash of a lead, before the space that follows it. -/
structure Writer.AfterDash (w : Writer) (pre : String) (lead : Lead) : Prop where
  out : w.out ++ " " = pre ++ lead.text
  column : w.column + 1 = lead.column
  whitespace : w.whitespace = false
  indention : w.indention = true

/-- Inside a line that is not ended, after something that is not blank. -/
structure Writer.InLine (w : Writer) (text : String) : Prop where
  out : w.out = text
  whitespace : w.whitespace = false
  indention : w.indention = false

theorem Writer.InLine.ended {w : Writer} {text : String} (h : w.InLine text) :
    w.Ended (text ++ "\n") :=
  .inl ⟨h.indention, by rw [h.out]⟩

theorem Writer.Continues.inLine {w w' : Writer} {text : String} (h : w.Continues w' text) :
    w'.InLine (w.out ++ text) :=
  ⟨h.out, h.whitespace, h.indention⟩

/-- What a part of the value leaves: its rows ended, and the stream as open as it was. -/
def Writes (w' w : Writer) (text : String) : Prop := w'.Ended text ∧ w'.openEnded = w.openEnded

theorem Writes.after {w w' w'' : Writer} {text : String} (h : Writes w'' w' text)
    (hopen : w'.openEnded = w.openEnded) : Writes w'' w text :=
  ⟨h.1, h.2.trans hopen⟩

@[simp] theorem Lead.text_fresh (c : Nat) : (Lead.fresh c).text = spaces c := by
  simp [Lead.text, Lead.fresh]

@[simp] theorem Lead.column_fresh (c : Nat) : (Lead.fresh c).column = c := by
  simp [Lead.column, Lead.fresh]

theorem Lead.text_push (lead : Lead) (p : List String) :
    (lead.push p).text = lead.text ++ "- " := by
  simp [Lead.text, Lead.push, String.join_append, String.append_assoc]

theorem Lead.column_push (lead : Lead) (p : List String) :
    (lead.push p).column = lead.column + 2 := by
  simp [Lead.column, Lead.push, Nat.mul_add, Nat.add_assoc]

/-- A line that is ended is followed by the indentation of a fresh lead. -/
theorem Writer.Ended.writeIndent {w : Writer} {pre : String} (h : w.Ended pre) (c : Nat) :
    (exec (writeIndent c) w).At pre (.fresh c) ∧
      (exec (writeIndent c) w).openEnded = w.openEnded := by
  rw [exec_writeIndent_of_ended h]
  exact ⟨⟨by simp, by simp, rfl, rfl⟩, rfl⟩

/-- After a dash, the indentation of the item's lead is the space that follows the dash. -/
theorem Writer.AfterDash.writeIndent {w : Writer} {pre : String} {lead : Lead}
    (h : w.AfterDash pre lead) :
    (exec (writeIndent lead.column) w).At pre lead ∧
      (exec (writeIndent lead.column) w).openEnded = w.openEnded := by
  rw [exec_writeIndent_after_dash w lead.column h.indention h.column]
  exact ⟨⟨h.out, rfl, rfl, rfl⟩, rfl⟩

/-- A dash written at the end of a lead opens the next item of the lead. -/
theorem Writer.At.dash {w : Writer} {pre : String} {lead : Lead} (h : w.At pre lead)
    (p : List String) :
    (exec (writeIndicator "-" true false true) w).AfterDash pre (lead.push p) ∧
      (exec (writeIndicator "-" true false true) w).openEnded = w.openEnded := by
  rw [exec_writeIndicator]
  refine ⟨⟨?_, ?_, rfl, by simp [h.indention]⟩, rfl⟩
  · simp [sep, h.whitespace, h.out, Lead.text_push, String.append_assoc]
  · simp [sep, h.whitespace, h.column, Lead.column_push]
    rfl

/-! ## Scalars -/

theorem rowsText_nil : rowsText [] = "" := rfl

theorem rowsText_cons (r : Row) (rs : List Row) :
    rowsText (r :: rs) = r.text ++ "\n" ++ rowsText rs := by
  simp [rowsText]

theorem rowsText_append (rs rs' : List Row) :
    rowsText (rs ++ rs') = rowsText rs ++ rowsText rs' := by
  simp [rowsText, String.join_append]

/-- A scalar that is not a literal block continues the line with its text in the style chosen
for it, after a space unless the writer stands at a blank. -/
theorem continues_scalar {w : Writer} {s : String} {req : RequestedStyle} {indent : Int}
    {simpleKey : Bool} (hlit : selectStyle req (analyze s) s simpleKey ≠ .literal)
    (hbreak : ∀ c ∈ s.toList, isBreak c = false)
    (hplain : selectStyle req (analyze s) s simpleKey = .plain →
      s ≠ "" ∨ w.whitespace = true) :
    w.Continues (exec (scalar s req indent simpleKey) w)
      (sep w ++ scalarText s (selectStyle req (analyze s) s simpleKey)) := by
  unfold scalar
  dsimp only
  cases hstyle : selectStyle req (analyze s) s simpleKey with
  | plain => exact continues_writePlain (hplain hstyle)
  | singleQuoted => exact continues_writeSingleQuoted s _ hbreak
  | doubleQuoted => exact continues_writeDoubleQuoted s
  | literal => exact absurd hstyle hlit

theorem node_of_scalarOf {x : Json} {s : String} {req : RequestedStyle}
    (h : scalarOf x = some (s, req)) (indent : Int) (mapValue : Bool) :
    node indent mapValue x = scalar s req indent false := by
  cases x <;> simp only [scalarOf, Option.some.injEq, Prod.mk.injEq, reduceCtorEq] at h <;>
    obtain ⟨rfl, rfl⟩ := h <;> rfl

theorem itemRows_of_scalarOf {x : Json} {s : String} {req : RequestedStyle}
    (h : scalarOf x = some (s, req)) (lead : Lead) (path : List String) :
    itemRows lead path x = scalarRows (.value lead) s req lead.column := by
  cases x <;> simp only [scalarOf, Option.some.injEq, Prod.mk.injEq, reduceCtorEq] at h <;>
    obtain ⟨rfl, rfl⟩ := h <;> simp [itemRows, scalarOf]

theorem keyRows_of_scalarOf {x : Json} {s : String} {req : RequestedStyle}
    (h : scalarOf x = some (s, req)) (lead : Lead) (path : List String) (key : String) :
    keyRows lead path key x =
      scalarRows (fun t => .key lead path (keyText key) (" " ++ t)) s req (lead.column + 2) := by
  cases x <;> simp only [scalarOf, Option.some.injEq, Prod.mk.injEq, reduceCtorEq] at h <;>
    obtain ⟨rfl, rfl⟩ := h <;> simp [keyRows, scalarOf]

theorem scalarRows_of_ne_literal {s : String} {req : RequestedStyle}
    (h : valueStyle s req ≠ .literal)
    (row : String → Row) (inner : Nat) :
    scalarRows row s req inner = [row (scalarText s (valueStyle s req))] := by
  unfold scalarRows
  cases hstyle : valueStyle s req
  case literal => exact absurd hstyle h
  all_goals rfl

/-- A scalar of a value with no line breaks is written on one line, and not empty when plain. -/
theorem Breakless.scalar {x : Json} {s : String} {req : RequestedStyle} (hx : Breakless x)
    (h : scalarOf x = some (s, req)) :
    (∀ c ∈ s.toList, isBreak c = false) ∧ valueStyle s req ≠ .literal ∧
      (valueStyle s req = .plain → s ≠ "") := by
  have hbreak : ∀ c ∈ s.toList, isBreak c = false := by
    rcases scalarOf_cases h with ⟨rfl, -⟩ | ⟨-, hvis, -⟩
    · exact hx.strings s (.refl _)
    · exact fun c hc => isBreak_of_visible (hvis c hc)
  have hsep : '\u2028' ∉ s.toList ∧ '\u2029' ∉ s.toList :=
    ⟨fun h' => absurd (hbreak _ h') (by decide), fun h' => absurd (hbreak _ h') (by decide)⟩
  refine ⟨hbreak, fun hlit => ?_, (writableScalar h hsep).plain⟩
  -- a literal block is asked for by a line feed, and a plain-requested text is visible
  have hreq := (literal_of_selectStyle hlit).1
  rcases scalarOf_cases h with ⟨-, rfl⟩ | ⟨rfl, -⟩
  · exact absurd (hbreak '\n' (requestedStyle_eq_literal.mp hreq)) (by decide)
  · cases hreq

/-- Two indicators that open and close an empty collection continue the line. -/
theorem continues_brackets (o c : String) (w : Writer) {t : String} (ht : o ++ c = t) :
    w.Continues (exec (do writeIndicator o true true false; writeIndicator c false false false) w)
      (sep w ++ t) := by
  subst ht
  rw [exec_bind, exec_writeIndicator, exec_writeIndicator]
  exact ⟨by simp [String.append_assoc], rfl, by simp, rfl⟩

/-- A key at the end of a lead, then its colon: the line goes on after the colon. -/
theorem Writer.At.key {k : String} (hk : isSimpleKey k = true) {w : Writer} {pre : String}
    {lead : Lead} (h : w.At pre lead) :
    (exec (writeIndicator ":" false false false)
        (exec (scalar k (requestedStyle k) lead.column true) w)).InLine
      (pre ++ lead.text ++ keyText k ++ ":") ∧
    (exec (writeIndicator ":" false false false)
        (exec (scalar k (requestedStyle k) lead.column true) w)).openEnded = w.openEnded := by
  obtain ⟨hbreak, hlit⟩ := simpleKey_facts hk
  have hkey : w.Continues (exec (scalar k (requestedStyle k) lead.column true) w) _ :=
    continues_scalar hlit hbreak fun _ => .inr h.whitespace
  rw [exec_writeIndicator]
  refine ⟨⟨?_, rfl, by simp [hkey.indention]⟩, hkey.openEnded⟩
  simp [hkey.out, h.out, sep, h.whitespace, keyText, keyStyle, String.append_assoc]

/-! ## Rows that end where they start

A scalar or an empty collection ends the row it starts on, whether that row is an item's, a
key's or the document's only one. -/

theorem Writer.At.ends {w w' : Writer} {pre t : String} {lead : Lead} (h : w.At pre lead)
    (hc : w.Continues w' (sep w ++ t)) : Writes w' w (pre ++ rowsText [.value lead t]) := by
  refine ⟨?_, hc.openEnded⟩
  have hended := hc.ended
  simp only [sep, h.whitespace, if_true, String.empty_append, h.out] at hended
  simpa [rowsText_cons, rowsText_nil, Row.text, String.append_assoc] using hended

theorem Writer.AfterDash.ends {w w' : Writer} {pre t : String} {lead : Lead}
    (h : w.AfterDash pre lead) (hc : w.Continues w' (sep w ++ t)) :
    Writes w' w (pre ++ rowsText [.value lead t]) := by
  refine ⟨?_, hc.openEnded⟩
  have hended := hc.ended
  simp only [sep, h.whitespace, Bool.false_eq_true, if_false, ← String.append_assoc, h.out]
    at hended
  simpa [rowsText_cons, rowsText_nil, Row.text, String.append_assoc] using hended

theorem Writer.InLine.ends {w w' : Writer} {pre key t after : String} {lead : Lead}
    {path : List String} (h : w.InLine (pre ++ lead.text ++ keyText key ++ ":"))
    (hc : w.Continues w' (sep w ++ t)) (hafter : " " ++ t = after) :
    Writes w' w (pre ++ rowsText [.key lead path (keyText key) after]) := by
  subst hafter
  refine ⟨?_, hc.openEnded⟩
  have hended := hc.ended
  simp only [sep, h.whitespace, Bool.false_eq_true, if_false, h.out] at hended
  simpa [rowsText_cons, rowsText_nil, Row.text, String.append_assoc] using hended

/-- A scalar of a value with no line breaks continues the line it is written on. -/
theorem Breakless.continues {x : Json} {s : String} {req : RequestedStyle} (hx : Breakless x)
    (h : scalarOf x = some (s, req)) {w : Writer} (indent : Int) :
    w.Continues (exec (Emit.scalar s req indent false) w)
      (sep w ++ scalarText s (valueStyle s req)) :=
  have hs := hx.scalar h
  continues_scalar hs.2.1 hs.1 fun hp => .inl (hs.2.2 hp)

/-! ## Values, sequences and mappings -/

/-- Writing an item's value from right after its dash, `c` being the dash's column. -/
def ItemWrites (x : Json) : Prop :=
  ∀ (lead : Lead) (path : List String) (pre : String) (w : Writer) (c : Nat),
    lead.column = c + 2 → w.AfterDash pre lead →
      Writes (exec (node c false x) w) w (pre ++ rowsText (itemRows lead path x))

/-- Writing a key's value from right after the key's colon. -/
def KeyWrites (v : Json) : Prop :=
  ∀ (lead : Lead) (path : List String) (key pre : String) (w : Writer),
    w.InLine (pre ++ lead.text ++ keyText key ++ ":") →
      Writes (exec (node lead.column true v) w) w (pre ++ rowsText (keyRows lead path key v))

/-- Writing sequence items from `index` on at column `c`, from an ended line. -/
def SeqWrites (xs : List Json) : Prop :=
  ∀ (c : Nat) (path : List String) (index : Nat) (pre : String) (w : Writer), w.Ended pre →
    Writes (exec (sequenceItems c xs) w) w (pre ++ rowsText (seqRows (.fresh c) path index xs))

/-- Writing mapping entries at column `c`, from an ended line. -/
def MapWrites (fs : List (String × Json)) : Prop :=
  ∀ (c : Nat) (path : List String) (pre : String) (w : Writer), w.Ended pre →
    Writes (exec (mappingEntries c fs) w) w (pre ++ rowsText (mapRows (.fresh c) path fs))

theorem exec_node_arr (indent : Int) (mapValue : Bool) (x : Json) (xs : List Json) (w : Writer) :
    exec (node indent mapValue (.arr (x :: xs))) w =
      exec (sequenceItems (if indent < 0 then 0 else if mapValue && !w.indention then indent
        else indent + 2) (x :: xs)) w := rfl

theorem exec_node_obj (indent : Int) (mapValue : Bool) (f : String × Json)
    (fs : List (String × Json)) (w : Writer) :
    exec (node indent mapValue (.obj (f :: fs))) w =
      exec (mappingEntries (deeper indent 0) (f :: fs)) w := rfl

theorem exec_sequenceItems_cons (indent : Int) (x : Json) (xs : List Json) (w : Writer) :
    exec (sequenceItems indent (x :: xs)) w =
      exec (sequenceItems indent xs) (exec (node indent false x)
        (exec (writeIndicator "-" true false true) (exec (writeIndent indent) w))) := rfl

theorem exec_mappingEntries_cons {k : String} (hk : isSimpleKey k = true) (indent : Int)
    (v : Json) (fs : List (String × Json)) (w : Writer) :
    exec (mappingEntries indent ((k, v) :: fs)) w =
      exec (mappingEntries indent fs) (exec (node indent true v)
        (exec (writeIndicator ":" false false false)
          (exec (scalar k (requestedStyle k) indent true) (exec (writeIndent indent) w)))) := by
  simp only [mappingEntries, hk, if_true]
  rfl

/-- Items written from the end of a lead: the first one's dash ends the lead. -/
theorem Writer.At.items {x : Json} {xs : List Json} (hx : ItemWrites x) (hxs : SeqWrites xs)
    {w : Writer} {pre : String} {lead : Lead} (h : w.At pre lead) (path : List String)
    (index : Nat) :
    Writes (exec (sequenceItems lead.column xs) (exec (node lead.column false x)
        (exec (writeIndicator "-" true false true) w))) w
      (pre ++ rowsText (seqRows lead path index (x :: xs))) := by
  obtain ⟨hdash, hopen⟩ := h.dash (path ++ [toString index])
  have hfirst := (hx _ (path ++ [toString index]) pre _ lead.column (Lead.column_push ..)
    hdash).after hopen
  have hrest := hxs lead.column path (index + 1) _ _ hfirst.1
  rw [seqRows, rowsText_append, ← String.append_assoc]
  exact hrest.after hfirst.2

/-- Entries written from the end of a lead: the first key ends the lead. -/
theorem Writer.At.entries {k : String} {v : Json} {fs : List (String × Json)}
    (hk : isSimpleKey k = true) (hv : KeyWrites v) (hfs : MapWrites fs) {w : Writer}
    {pre : String} {lead : Lead} (h : w.At pre lead) (path : List String) :
    Writes (exec (mappingEntries lead.column fs) (exec (node lead.column true v)
        (exec (writeIndicator ":" false false false)
          (exec (scalar k (requestedStyle k) lead.column true) w)))) w
      (pre ++ rowsText (mapRows lead path ((k, v) :: fs))) := by
  obtain ⟨hkey, hopen⟩ := h.key hk
  have hfirst := (hv lead (path ++ [k]) k pre _ hkey).after hopen
  have hrest := hfs lead.column path _ _ hfirst.1
  rw [mapRows, rowsText_append, ← String.append_assoc]
  exact hrest.after hfirst.2

section Shapes

/-! Each shape of value, written from where its owner leaves the writer. -/

theorem itemWrites_scalar {x : Json} {s : String} {req : RequestedStyle} (hx : Breakless x)
    (h : scalarOf x = some (s, req)) : ItemWrites x := by
  intro lead path pre w c _ hw
  rw [node_of_scalarOf h, itemRows_of_scalarOf h, scalarRows_of_ne_literal (hx.scalar h).2.1]
  exact hw.ends (hx.continues h _)

theorem keyWrites_scalar {x : Json} {s : String} {req : RequestedStyle} (hx : Breakless x)
    (h : scalarOf x = some (s, req)) : KeyWrites x := by
  intro lead path key pre w hw
  rw [node_of_scalarOf h, keyRows_of_scalarOf h, scalarRows_of_ne_literal (hx.scalar h).2.1]
  exact hw.ends (hx.continues h _) rfl

theorem itemWrites_arr_nil : ItemWrites (.arr []) :=
  fun _ _ _ w _ _ hw => hw.ends (continues_brackets "[" "]" w (by simp))

theorem itemWrites_obj_nil : ItemWrites (.obj []) :=
  fun _ _ _ w _ _ hw => hw.ends (continues_brackets "\x7b" "\x7d" w (by simp))

theorem keyWrites_arr_nil : KeyWrites (.arr []) :=
  fun _ _ _ _ w hw => hw.ends (continues_brackets "[" "]" w rfl) (by simp)

theorem keyWrites_obj_nil : KeyWrites (.obj []) :=
  fun _ _ _ _ w hw => hw.ends (continues_brackets "\x7b" "\x7d" w rfl) (by simp)

theorem itemWrites_arr {x : Json} {xs : List Json} (hx : ItemWrites x) (hxs : SeqWrites xs) :
    ItemWrites (.arr (x :: xs)) := by
  intro lead path pre w c hcol h
  -- the item's own lead is the indentation of its sequence, two past its dash
  have hinner : (c : Int) + 2 = lead.column := by omega
  obtain ⟨hat, hopen⟩ := h.writeIndent
  rw [exec_node_arr, if_neg (show ¬ (c : Int) < 0 by omega), Bool.false_and,
    if_neg Bool.false_ne_true, hinner, exec_sequenceItems_cons]
  exact (hat.items hx hxs path 0).after hopen

theorem itemWrites_obj {k : String} {v : Json} {fs : List (String × Json)}
    (hk : isSimpleKey k = true) (hv : KeyWrites v) (hfs : MapWrites fs) :
    ItemWrites (.obj ((k, v) :: fs)) := by
  intro lead path pre w c hcol h
  have hdeeper : deeper c 0 = lead.column := by
    rw [deeper, if_neg (show ¬ (c : Int) < 0 by omega)]
    omega
  obtain ⟨hat, hopen⟩ := h.writeIndent
  rw [exec_node_obj, hdeeper, exec_mappingEntries_cons hk]
  exact (hat.entries hk hv hfs path).after hopen

theorem keyWrites_arr {x : Json} {xs : List Json} (hxs : SeqWrites (x :: xs)) :
    KeyWrites (.arr (x :: xs)) := by
  intro lead path key pre w h
  -- a sequence under a key starts on the next row, at the key's own column
  rw [exec_node_arr, if_neg (show ¬ (lead.column : Int) < 0 by omega), h.indention,
    Bool.not_false, Bool.true_and, if_pos rfl]
  have hrows : pre ++ rowsText (keyRows lead path key (.arr (x :: xs))) =
      pre ++ lead.text ++ keyText key ++ ":" ++ "\n" ++
        rowsText (seqRows (.fresh lead.column) path 0 (x :: xs)) := by
    simp [keyRows, rowsText_cons, Row.text, String.append_assoc]
  rw [hrows]
  exact hxs lead.column path 0 _ w h.ended

theorem keyWrites_obj {f : String × Json} {fs : List (String × Json)}
    (hfs : MapWrites (f :: fs)) : KeyWrites (.obj (f :: fs)) := by
  intro lead path key pre w h
  -- a mapping under a key starts on the next row, one level deeper than the key
  have hdeeper : deeper lead.column 0 = (lead.column + 2 : Nat) := by
    rw [deeper, if_neg (show ¬ (lead.column : Int) < 0 by omega)]
    omega
  rw [exec_node_obj, hdeeper]
  have hrows : pre ++ rowsText (keyRows lead path key (.obj (f :: fs))) =
      pre ++ lead.text ++ keyText key ++ ":" ++ "\n" ++
        rowsText (mapRows (.fresh (lead.column + 2)) path (f :: fs)) := by
    simp [keyRows, rowsText_cons, Row.text, String.append_assoc]
  rw [hrows]
  exact hfs (lead.column + 2) path _ w h.ended

theorem seqWrites_nil : SeqWrites [] := by
  intro c path index pre w h
  have hrows : pre ++ rowsText (seqRows (.fresh c) path index []) = pre := by
    simp [seqRows, rowsText_nil]
  rw [hrows]
  exact ⟨h, rfl⟩

theorem mapWrites_nil : MapWrites [] := by
  intro c path pre w h
  have hrows : pre ++ rowsText (mapRows (.fresh c) path []) = pre := by
    simp [mapRows, rowsText_nil]
  rw [hrows]
  exact ⟨h, rfl⟩

theorem seqWrites_cons {x : Json} {xs : List Json} (hx : ItemWrites x) (hxs : SeqWrites xs) :
    SeqWrites (x :: xs) := by
  intro c path index pre w h
  obtain ⟨hat, hopen⟩ := h.writeIndent c
  have hitems := (hat.items hx hxs path index).after hopen
  rw [Lead.column_fresh] at hitems
  rw [exec_sequenceItems_cons]
  exact hitems

theorem mapWrites_cons {k : String} {v : Json} {fs : List (String × Json)}
    (hk : isSimpleKey k = true) (hv : KeyWrites v) (hfs : MapWrites fs) :
    MapWrites ((k, v) :: fs) := by
  intro c path pre w h
  obtain ⟨hat, hopen⟩ := h.writeIndent c
  have hentries := (hat.entries hk hv hfs path).after hopen
  rw [Lead.column_fresh] at hentries
  rw [exec_mappingEntries_cons hk]
  exact hentries

end Shapes

/- The induction follows the writer's own recursion: a value through its items and entries. -/
mutual

theorem itemWrites : ∀ x : Json, Breakless x → ItemWrites x
  | .null, hx | .bool _, hx | .num _, hx | .str _, hx => itemWrites_scalar hx rfl
  | .arr [], _ => itemWrites_arr_nil
  | .arr (x :: xs), hx =>
    itemWrites_arr (itemWrites x (hx.item List.mem_cons_self))
      (seqWrites xs fun _ hy => hx.item (List.mem_cons_of_mem x hy))
  | .obj [], _ => itemWrites_obj_nil
  | .obj ((_, v) :: fs), hx =>
    itemWrites_obj (hx.key List.mem_cons_self) (keyWrites v (hx.field List.mem_cons_self))
      (mapWrites fs fun _ hf =>
        ⟨hx.key (List.mem_cons_of_mem _ hf), hx.field (List.mem_cons_of_mem _ hf)⟩)

theorem keyWrites : ∀ v : Json, Breakless v → KeyWrites v
  | .null, hv | .bool _, hv | .num _, hv | .str _, hv => keyWrites_scalar hv rfl
  | .arr [], _ => keyWrites_arr_nil
  | .arr (x :: xs), hv => keyWrites_arr (seqWrites (x :: xs) fun _ hy => hv.item hy)
  | .obj [], _ => keyWrites_obj_nil
  | .obj (f :: fs), hv =>
    keyWrites_obj (mapWrites (f :: fs) fun _ hf => ⟨hv.key hf, hv.field hf⟩)

theorem seqWrites : ∀ xs : List Json, (∀ x ∈ xs, Breakless x) → SeqWrites xs
  | [], _ => seqWrites_nil
  | x :: xs, h =>
    seqWrites_cons (itemWrites x (h x List.mem_cons_self))
      (seqWrites xs fun y hy => h y (List.mem_cons_of_mem x hy))

theorem mapWrites : ∀ fs : List (String × Json),
    (∀ f ∈ fs, isSimpleKey f.1 = true ∧ Breakless f.2) → MapWrites fs
  | [], _ => mapWrites_nil
  | (k, v) :: fs, h =>
    mapWrites_cons (h (k, v) List.mem_cons_self).1 (keyWrites v (h (k, v) List.mem_cons_self).2)
      (mapWrites fs fun f hf => h f (List.mem_cons_of_mem _ hf))

end

/-! ## The document -/

/- A value with no line breaks holds no literal block, so nothing leaves the stream open. -/
mutual

theorem keepsOpen_of_breakless : ∀ v : Json, Breakless v → keepsOpen v = false
  | .str s, hv => by
    have hlit := (hv.scalar (s := s) rfl).2.1
    rw [keepsOpen, keepsBreaks]
    cases hstyle : valueStyle s (requestedStyle s)
    case literal => exact absurd hstyle hlit
    all_goals rfl
  | .arr xs, hv => by
    rw [keepsOpen]
    exact keepsOpenItems_of_breakless xs fun _ hx => hv.item hx
  | .obj fs, hv => by
    rw [keepsOpen]
    exact keepsOpenFields_of_breakless fs fun _ hf => hv.field hf
  | .null, _ | .bool _, _ | .num _, _ => rfl

theorem keepsOpenItems_of_breakless :
    ∀ xs : List Json, (∀ x ∈ xs, Breakless x) → keepsOpenItems xs = false
  | [], _ => rfl
  | x :: xs, h => by
    rw [keepsOpenItems, keepsOpen_of_breakless x (h x List.mem_cons_self),
      keepsOpenItems_of_breakless xs fun y hy => h y (List.mem_cons_of_mem x hy)]
    rfl

theorem keepsOpenFields_of_breakless :
    ∀ fs : List (String × Json), (∀ f ∈ fs, Breakless f.2) → keepsOpenFields fs = false
  | [], _ => rfl
  | (k, v) :: fs, h => by
    rw [keepsOpenFields, keepsOpen_of_breakless v (h (k, v) List.mem_cons_self),
      keepsOpenFields_of_breakless fs fun f hf => h f (List.mem_cons_of_mem _ hf)]
    rfl

end

/-- When the value leaves the stream closed, the document is the value and a final line break. -/
theorem exec_document_of_closed {v : Json} {w : Writer}
    (h : (exec (writeIndent 0) (exec (node (-1) false v) w)).openEnded = false) :
    exec (document v) w = exec (writeIndent 0) (exec (node (-1) false v) w) := by
  unfold document exec at *
  simp only [run_bind]
  split
  · rename_i hopen
    exact absurd (h.symm.trans hopen) Bool.false_ne_true
  · rfl

/-- A scalar alone in a document is one row, like an item's scalar at the first column. -/
theorem scalarRows_document {x : Json} {s : String} {req : RequestedStyle} (hx : Breakless x)
    (h : scalarOf x = some (s, req)) :
    scalarRows (.value (.fresh 0)) s req 2 = itemRows (.fresh 0) [] x := by
  rw [itemRows_of_scalarOf h, scalarRows_of_ne_literal (hx.scalar h).2.1,
    scalarRows_of_ne_literal (hx.scalar h).2.1]

/-- With no line break anywhere, a document's rows are its value's rows at the first column:
no literal block needs its own indentation and no end marker follows. -/
theorem rows_eq_itemRows {v : Json} (hv : Breakless v) : rows v = itemRows (.fresh 0) [] v := by
  match v, hv with
  | .null, hv | .bool _, hv | .num _, hv | .str _, hv =>
    simp only [rows, keepsOpen_of_breakless _ hv, Bool.false_eq_true, ↓reduceIte,
      List.append_nil]
    exact scalarRows_document hv rfl
  | .arr [], _ | .obj [], _ => rfl
  | .arr (_ :: _), hv | .obj (_ :: _), hv =>
    simp only [rows, keepsOpen_of_breakless _ hv, Bool.false_eq_true, ↓reduceIte,
      List.append_nil]
    rfl

/-- A scalar written at the end of a lead ends the lead's row with its text. -/
theorem Writer.At.writesScalar {x : Json} {s : String} {req : RequestedStyle} (hx : Breakless x)
    (h : scalarOf x = some (s, req)) {w : Writer} {pre : String} {lead : Lead} (hat : w.At pre lead)
    (indent : Int) (path : List String) :
    Writes (exec (node indent false x) w) w (pre ++ rowsText (itemRows lead path x)) := by
  rw [node_of_scalarOf h, itemRows_of_scalarOf h, scalarRows_of_ne_literal (hx.scalar h).2.1]
  exact hat.ends (hx.continues h indent)

/-- The value written from the writer's start leaves the rows of the document ended. -/
theorem bodyWrites {v : Json} (hv : Breakless v) :
    Writes (exec (node (-1) false v) {}) {} (rowsText (rows v)) := by
  have hat : ({} : Writer).At "" (.fresh 0) := ⟨by simp [spaces], rfl, rfl, rfl⟩
  have hended : ({} : Writer).Ended "" := .inr ⟨rfl, rfl, rfl, rfl⟩
  rw [rows_eq_itemRows hv, ← String.empty_append (s := rowsText _)]
  -- the document's value is written from column 0 with no lead before it
  cases v with
  | null | bool _ | num _ | str _ => exact hat.writesScalar hv rfl (-1) []
  | arr items =>
    cases items with
    | nil => exact hat.ends (continues_brackets "[" "]" {} (by simp))
    | cons x xs =>
      rw [exec_node_arr, if_pos (by decide)]
      exact seqWrites (x :: xs) (fun _ hy => hv.item hy) 0 [] 0 "" {} hended
  | obj fields =>
    cases fields with
    | nil => exact hat.ends (continues_brackets "\x7b" "\x7d" {} (by simp))
    | cons f fs =>
      rw [exec_node_obj, show deeper (-1) 0 = ((0 : Nat) : Int) by decide]
      exact mapWrites (f :: fs) (fun _ hf => ⟨hv.key hf, hv.field hf⟩) 0 [] "" {} hended

/-- A value whose keys are simple keys and whose strings hold no line break is written exactly
as its rows lay it out. -/
theorem render_eq_rowsText {v : Json} (hv : Breakless v) : render v = rowsText (rows v) := by
  obtain ⟨hended, hopen⟩ := bodyWrites hv
  have hindent := exec_writeIndent_of_ended hended 0
  rw [Int.natCast_zero] at hindent
  have hclosed : (exec (writeIndent 0) (exec (node (-1) false v) {})).openEnded = false := by
    rw [hindent]
    exact hopen
  show (exec (document v) {}).out = _
  rw [exec_document_of_closed hclosed, hindent]
  simp [spaces]

end Covenant.Yaml.Emit
