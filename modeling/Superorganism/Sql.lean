/-
Tables of rows with the constraints of a relational schema: unique columns, references
from one table to another, and the transactions that write them. Nothing here is about one
schema.

A table is a list of rows in the order of their row ids. A column, or a tuple of columns,
is a function of the row. `Unique` is what PRIMARY KEY and UNIQUE ask of a table, `Refers`
what FOREIGN KEY asks of two; each way of writing a table has its lemma for either. A
statement that fails changes nothing by itself, and a transaction that fails takes back
what the statements before it had written.
-/
import Mathlib.Data.List.Nodup
import Mathlib.Data.List.Perm.Lattice

set_option autoImplicit false

namespace Superorganism.Sql

/-! ## Statements and transactions -/

section

variable {σ ε α : Type}

/-- A statement run in a state: where it fails it has changed nothing. -/
def exec (statement : σ → Except ε (α × σ)) (s : σ) : Except ε α × σ :=
  match statement s with
  | .ok (a, s') => (.ok a, s')
  | .error e => (.error e, s)

/-- A statement fails and leaves the state as it was, or succeeds. -/
theorem exec_cases (statement : σ → Except ε (α × σ)) (s : σ) :
    (∃ e, statement s = .error e ∧ exec statement s = (.error e, s)) ∨
      ∃ a s', statement s = .ok (a, s') ∧ exec statement s = (.ok a, s') := by
  cases h : statement s with
  | error e => exact .inl ⟨e, rfl, by rw [exec, h]⟩
  | ok r => exact .inr ⟨r.1, r.2, rfl, by rw [exec, h]⟩

/-- `with connection:`. What ran before a failure is rolled back. -/
def transaction (body : σ → Except ε α × σ) (s : σ) : Except ε α × σ :=
  match body s with
  | (.ok a, s') => (.ok a, s')
  | (.error e, _) => (.error e, s)

theorem transaction_of_error {body : σ → Except ε α × σ} {s : σ} {e : ε}
    (h : (body s).1 = .error e) : transaction body s = (.error e, s) := by
  unfold transaction
  cases hb : body s with
  | mk answer after =>
      rw [hb] at h
      simp only at h
      rw [h]

theorem transaction_of_ok {body : σ → Except ε α × σ} {s : σ} {a : α}
    (h : (body s).1 = .ok a) : transaction body s = (.ok a, (body s).2) := by
  unfold transaction
  cases hb : body s with
  | mk answer after =>
      rw [hb] at h
      simp only at h
      rw [h]

/-- A transaction that raises leaves everything as it was. -/
theorem transaction_rollback {body : σ → Except ε α × σ} {s : σ} {e : ε}
    (h : (transaction body s).1 = .error e) : (transaction body s).2 = s := by
  cases hb : (body s).1 with
  | error e' => rw [transaction_of_error hb]
  | ok a =>
      rw [transaction_of_ok hb] at h
      cases h

/-- A transaction of preparation and one statement that succeeds in the prepared state. -/
theorem transaction_exec_ok (prepare : σ → σ) (statement : σ → Except ε (α × σ)) {s s' : σ} {a : α}
    (h : statement (prepare s) = .ok (a, s')) :
    transaction (fun s => exec statement (prepare s)) s = (.ok a, s') := by
  have hbody : exec statement (prepare s) = (.ok a, s') := by rw [exec, h]
  simp only [transaction, hbody]

/-- Where the statement fails nothing happened. -/
theorem transaction_exec_error (prepare : σ → σ) (statement : σ → Except ε (α × σ)) {s : σ} {e : ε}
    (h : statement (prepare s) = .error e) :
    transaction (fun s => exec statement (prepare s)) s = (.error e, s) :=
  transaction_of_error (by rw [exec, h])

theorem transaction_exec (prepare : σ → σ) (statement : σ → Except ε (α × σ)) (s : σ) :
    (∃ e, statement (prepare s) = .error e ∧
      transaction (fun s => exec statement (prepare s)) s = (.error e, s)) ∨
    ∃ a s', statement (prepare s) = .ok (a, s') ∧
      transaction (fun s => exec statement (prepare s)) s = (.ok a, s') := by
  cases h : statement (prepare s) with
  | error e => exact .inl ⟨e, rfl, transaction_exec_error prepare statement h⟩
  | ok result => exact .inr ⟨result.1, result.2, rfl, transaction_exec_ok prepare statement h⟩

/-- A transaction keeps what its preparation and its statement keep. -/
theorem transaction_keeps {P : σ → Prop} (prepare : σ → σ) (statement : σ → Except ε (α × σ))
    (hprepare : ∀ s, P s → P (prepare s))
    (hstatement : ∀ s a s', P s → statement s = .ok (a, s') → P s') {s : σ} (h : P s) :
    P (transaction (fun s => exec statement (prepare s)) s).2 := by
  rcases transaction_exec prepare statement s with ⟨e, -, hfail⟩ | ⟨a, s', hok, hdone⟩
  · rw [hfail]
    exact h
  · rw [hdone]
    exact hstatement _ a s' (hprepare s h) hok

end

/-! ## Operations in sequence -/

/-- An operation answers with a value or an exception, and with the state it leaves. -/
def Operation (σ ε α : Type) := σ → Except ε α × σ

namespace Operation

section

variable {σ ε α β : Type}

instance : Monad (Operation σ ε) where
  pure a := fun s => (.ok a, s)
  bind p f := fun s =>
    match p s with
    | (.ok a, s') => f a s'
    | (.error e, s') => (.error e, s')

/-- An operation that only reads. -/
def reads (f : σ → Except ε α) : Operation σ ε α := fun s => (f s, s)

/-- `except ... as exc: raise handler(exc)`. -/
def raising (handler : ε → ε) (p : Operation σ ε α) : Operation σ ε α := fun s =>
  match p s with
  | (.ok a, s') => (.ok a, s')
  | (.error e, s') => (.error (handler e), s')

/-- A read before what amounts to one statement amounts to one statement. -/
theorem reads_bind {f : σ → Except ε α} {g : α → Operation σ ε β}
    {statement : α → σ → Except ε (β × σ)} (hg : ∀ a, g a = exec (statement a)) :
    (reads f >>= g) = exec fun s => f s >>= fun a => statement a s := by
  funext s
  show (match (f s, s) with
    | (.ok a, s') => g a s'
    | (.error e, s') => (.error e, s')) = _
  rw [exec]
  cases hf : f s with
  | error e => rfl
  | ok a =>
      dsimp only
      rw [hg a]
      rfl

/-- What is made of the answer does not matter to the state. -/
theorem exec_bind_pure (statement : σ → Except ε (α × σ)) (g : α → β) :
    (((exec statement : Operation σ ε α) >>= fun a => pure (g a)) : Operation σ ε β) =
      exec fun s => (statement s).map fun r => (g r.1, r.2) := by
  funext s
  show (match exec statement s with
    | (.ok a, s') => ((.ok (g a), s') : Except ε β × σ)
    | (.error e, s') => (.error e, s')) = _
  cases hs : statement s with
  | error e => simp only [exec, hs, Except.map]
  | ok r => simp only [exec, hs, Except.map]

/-- A transaction of one statement is that statement, whatever its exception is made into. -/
theorem raising_transaction_exec (handler : ε → ε) (statement : σ → Except ε (α × σ)) :
    raising handler (transaction (exec statement)) = exec fun s =>
      match statement s with
      | .ok r => .ok r
      | .error e => .error (handler e) := by
  funext s
  cases hs : statement s with
  | error e => simp only [raising, transaction, exec, hs]
  | ok r => simp only [raising, transaction, exec, hs]

end

end Operation

/-! ## Unique columns -/

section

variable {ρ κ : Type} {column : ρ → κ} {rows : List ρ}

/-- No two rows agree in the column. -/
def Unique (column : ρ → κ) (rows : List ρ) : Prop := (rows.map column).Nodup

theorem Unique.nil : Unique column [] := List.nodup_nil

theorem Unique.append (h : Unique column rows) {row : ρ} (hnew : column row ∉ rows.map column) :
    Unique column (rows ++ [row]) := by
  rw [Unique, List.map_append, List.map_singleton, List.nodup_append']
  exact ⟨h, List.nodup_singleton _, by simpa using hnew⟩

theorem Unique.filter (h : Unique column rows) (keep : ρ → Bool) :
    Unique column (rows.filter keep) :=
  h.sublist (List.Sublist.map column (List.filter_sublist ..))

theorem Unique.inj (h : Unique column rows) {a b : ρ} (ha : a ∈ rows) (hb : b ∈ rows)
    (hab : column a = column b) : a = b :=
  List.inj_on_of_nodup_map h ha hb hab

variable [DecidableEq κ]

/-- `WHERE column = k` selects at most one row. -/
theorem Unique.filter_eq (h : Unique column rows) {row : ρ} (hrow : row ∈ rows) :
    rows.filter (fun r => column r = column row) = [row] := by
  induction rows with
  | nil => cases hrow
  | cons first rest ih =>
      rw [Unique, List.map_cons, List.nodup_cons] at h
      rcases List.mem_cons.mp hrow with rfl | hrest
      · -- no later row has the column of the first one
        have hnone : rest.filter (fun r => column r = column row) = [] := by
          rw [List.filter_eq_nil_iff]
          intro r hr
          have hne : column r ≠ column row := fun heq => h.1 (heq ▸ List.mem_map_of_mem hr)
          simpa using hne
        rw [List.filter_cons, if_pos (by simp), hnone]
      · have hne : column first ≠ column row := fun heq => h.1 (heq ▸ List.mem_map_of_mem hrest)
        rw [List.filter_cons, if_neg (by simpa using hne)]
        exact ih h.2 hrest

/-- `UPDATE ... WHERE column = old`: the row found is overwritten in its place. -/
def replaceRow (column : ρ → κ) (old : κ) (new : ρ) (rows : List ρ) : List ρ :=
  rows.map fun row => if column row = old then new else row

theorem mem_replaceRow {old : κ} {new row : ρ} :
    row ∈ replaceRow column old new rows ↔
      (row ∈ rows ∧ column row ≠ old) ∨ (row = new ∧ old ∈ rows.map column) := by
  rw [replaceRow, List.mem_map]
  constructor
  · rintro ⟨r, hr, rfl⟩
    by_cases hold : column r = old
    · rw [if_pos hold]
      exact .inr ⟨rfl, hold ▸ List.mem_map_of_mem hr⟩
    · rw [if_neg hold]
      exact .inl ⟨hr, hold⟩
  · rintro (⟨hr, hold⟩ | ⟨rfl, hold⟩)
    · exact ⟨row, hr, if_neg hold⟩
    · obtain ⟨r, hr, hcolumn⟩ := List.mem_map.mp hold
      exact ⟨r, hr, if_pos hcolumn⟩

/-- An update keeps the column unique if the new value is the old one or new. -/
theorem Unique.replace (h : Unique column rows) {old : κ} {new : ρ}
    (hnew : column new = old ∨ column new ∉ rows.map column) :
    Unique column (replaceRow column old new rows) := by
  have hmap : (replaceRow column old new rows).map column =
      (rows.map column).map fun k => if k = old then column new else k := by
    rw [replaceRow, List.map_map, List.map_map]
    apply List.map_congr_left
    intro row _
    dsimp only [Function.comp]
    split <;> rfl
  rw [Unique, hmap]
  refine List.Nodup.map_on ?_ h
  intro a ha b hb hab
  -- whether either of two rows with one value is the one updated
  by_cases haold : a = old
  · by_cases hbold : b = old
    · rw [haold, hbold]
    · rw [if_pos haold, if_neg hbold] at hab
      rcases hnew with hsame | hfresh
      · exact absurd (hab.symm.trans hsame) hbold
      · exact absurd (hab ▸ hb) hfresh
  · by_cases hbold : b = old
    · rw [if_neg haold, if_pos hbold] at hab
      rcases hnew with hsame | hfresh
      · exact absurd (hab.trans hsame) haold
      · exact absurd (hab ▸ ha) hfresh
    · rw [if_neg haold, if_neg hbold] at hab
      exact hab

end

/-! ## References -/

section

variable {γ ρ κ : Type} {reference : γ → κ} {children : List γ} {column : ρ → κ} {rows : List ρ}

/-- Every child names a row that is there. -/
def Refers (reference : γ → κ) (children : List γ) (column : ρ → κ) (rows : List ρ) : Prop :=
  ∀ child ∈ children, ∃ row ∈ rows, column row = reference child

theorem Refers.nil : Refers reference [] column rows := by
  intro child hchild
  cases hchild

theorem Refers.append_row (h : Refers reference children column rows) (row : ρ) :
    Refers reference children column (rows ++ [row]) := by
  intro child hchild
  obtain ⟨parent, hparent, hcolumn⟩ := h child hchild
  exact ⟨parent, List.mem_append_left _ hparent, hcolumn⟩

theorem Refers.append_child (h : Refers reference children column rows) {child : γ}
    (hchild : reference child ∈ rows.map column) :
    Refers reference (children ++ [child]) column rows := by
  intro c hc
  rcases List.mem_append.mp hc with hc | hc
  · exact h c hc
  · rw [List.mem_singleton.mp hc]
    exact List.mem_map.mp hchild

theorem Refers.filter_child (h : Refers reference children column rows) (keep : γ → Bool) :
    Refers reference (children.filter keep) column rows :=
  fun child hchild => h child (List.mem_of_mem_filter hchild)

/-- ON DELETE CASCADE: with a row go the children that name it. -/
theorem Refers.cascade (h : Refers reference children column rows) {keep : γ → Bool}
    {keepRow : ρ → Bool} (hkeep : ∀ row ∈ rows, keepRow row = false →
      ∀ child ∈ children, reference child = column row → keep child = false) :
    Refers reference (children.filter keep) column (rows.filter keepRow) := by
  intro child hchild
  rw [List.mem_filter] at hchild
  obtain ⟨row, hrow, hcolumn⟩ := h child hchild.1
  refine ⟨row, List.mem_filter.mpr ⟨hrow, ?_⟩, hcolumn⟩
  by_contra hgone
  rw [Bool.not_eq_true] at hgone
  rw [hkeep row hrow hgone child hchild.1 hcolumn.symm] at hchild
  exact Bool.false_ne_true hchild.2

theorem Refers.replace_child {ι : Type} [DecidableEq ι] (h : Refers reference children column rows)
    {id : γ → ι} {old : ι} {new : γ} (hnew : reference new ∈ rows.map column) :
    Refers reference (replaceRow id old new children) column rows := by
  intro child hchild
  rcases mem_replaceRow.mp hchild with ⟨hchild, -⟩ | ⟨rfl, -⟩
  · exact h child hchild
  · exact List.mem_map.mp hnew

variable [DecidableEq κ]

/-- An update of a row keeps the references to it, if it keeps its name or nothing names it. -/
theorem Refers.replace_row (h : Refers reference children column rows) {old : κ} {new : ρ}
    (hnew : column new = old ∨ ∀ child ∈ children, reference child ≠ old) :
    Refers reference children column (replaceRow column old new rows) := by
  intro child hchild
  obtain ⟨row, hrow, hcolumn⟩ := h child hchild
  by_cases hold : column row = old
  · rcases hnew with hsame | hnone
    · exact ⟨new, mem_replaceRow.mpr (.inr ⟨rfl, hold ▸ List.mem_map_of_mem hrow⟩),
        by rw [hsame, ← hold, hcolumn]⟩
    · exact absurd (hcolumn.symm.trans hold) (hnone child hchild)
  · exact ⟨row, mem_replaceRow.mpr (.inl ⟨hrow, hold⟩), hcolumn⟩

end

/-! ## A table as a map -/

section

variable {α ρ κ ι : Type} {row : α → ρ} {key : α → κ} {rows : List ρ} {last : κ → Option α}

/-- The table holds the rows of the values a map gives for their keys. -/
def Holds (row : α → ρ) (key : α → κ) (rows : List ρ) (last : κ → Option α) : Prop :=
  ∀ r, r ∈ rows ↔ ∃ a, last (key a) = some a ∧ r = row a

theorem Holds.mem (h : Holds row key rows last) {a : α} (ha : last (key a) = some a) :
    row a ∈ rows :=
  (h _).mpr ⟨a, ha, rfl⟩

theorem Holds.filter (h : Holds row key rows last) {keepRow : ρ → Bool} {keep : α → Bool}
    (hkeep : ∀ a, keepRow (row a) = keep a) :
    Holds row key (rows.filter keepRow) fun k => (last k).filter keep := by
  intro r
  rw [List.mem_filter, h r]
  constructor
  · rintro ⟨⟨a, ha, rfl⟩, hr⟩
    rw [hkeep] at hr
    exact ⟨a, Option.filter_eq_some_iff.mpr ⟨ha, hr⟩, rfl⟩
  · rintro ⟨a, ha, rfl⟩
    obtain ⟨ha, hr⟩ := Option.filter_eq_some_iff.mp ha
    rw [hkeep]
    exact ⟨⟨a, ha, rfl⟩, hr⟩

theorem Holds.congr {rows' : List ρ} {last' : κ → Option α} (h : Holds row key rows last)
    (hrows : rows' = rows) (hlast : ∀ k, last' k = last k) : Holds row key rows' last' := by
  rw [hrows, funext hlast]
  exact h

variable [DecidableEq κ] [DecidableEq ι] (column : ρ → ι) (name : κ → ι)
  (hname : Function.Injective name) (hcolumn : ∀ a, column (row a) = name (key a))

omit [DecidableEq ι] in
include hcolumn in
theorem Holds.insert (h : Holds row key rows last) {new : α}
    (hnew : column (row new) ∉ rows.map column) :
    Holds row key (rows ++ [row new]) fun k => if key new = k then some new else last k := by
  intro r
  rw [List.mem_append, List.mem_singleton, h r]
  constructor
  · rintro (⟨a, ha, rfl⟩ | rfl)
    · -- the new key is that of no value in the table
      have hne : key new ≠ key a := by
        intro heq
        apply hnew
        rw [hcolumn, heq, ← hcolumn]
        exact List.mem_map_of_mem (h.mem ha)
      exact ⟨a, (if_neg hne).trans ha, rfl⟩
    · exact ⟨new, if_pos rfl, rfl⟩
  · rintro ⟨a, ha, rfl⟩
    dsimp only at ha
    split at ha
    · cases ha
      exact .inr rfl
    · exact .inl ⟨a, ha, rfl⟩

include hname hcolumn

theorem Holds.erase (h : Holds row key rows last) (old : κ) :
    Holds row key (rows.filter fun r => column r ≠ name old)
      fun k => if old = k then none else last k := by
  intro r
  rw [List.mem_filter, h r]
  constructor
  · rintro ⟨⟨a, ha, rfl⟩, hr⟩
    have hne : old ≠ key a := by
      rintro rfl
      simp [hcolumn] at hr
    exact ⟨a, (if_neg hne).trans ha, rfl⟩
  · rintro ⟨a, ha, rfl⟩
    dsimp only at ha
    split at ha
    · cases ha
    · rename_i hne
      refine ⟨⟨a, ha, rfl⟩, ?_⟩
      have hne' : name (key a) ≠ name old := fun heq => hne (hname heq).symm
      simpa [hcolumn] using hne'

/-- An update of the row of `old`, under its own name or a new one. -/
theorem Holds.replace (h : Holds row key rows last) {old : κ} {new : α}
    (hold : name old ∈ rows.map column)
    (hnew : column (row new) = name old ∨ column (row new) ∉ rows.map column) :
    Holds row key (replaceRow column (name old) (row new) rows) fun k =>
      if key new = k then some new else if old = k then none else last k := by
  intro r
  rw [mem_replaceRow, h r]
  constructor
  · rintro (⟨⟨a, ha, rfl⟩, hr⟩ | ⟨rfl, -⟩)
    · -- a row that is not updated keeps its key to itself
      have hne : old ≠ key a := by
        rintro rfl
        exact hr (hcolumn a)
      have hne' : key new ≠ key a := by
        intro heq
        rw [hcolumn, heq] at hnew
        rcases hnew with hsame | hfresh
        · exact hne (hname hsame).symm
        · rw [← hcolumn] at hfresh
          exact hfresh (List.mem_map_of_mem (h.mem ha))
      exact ⟨a, (if_neg hne').trans ((if_neg hne).trans ha), rfl⟩
    · exact ⟨new, if_pos rfl, rfl⟩
  · rintro ⟨a, ha, rfl⟩
    dsimp only at ha
    split at ha
    · cases ha
      exact .inr ⟨rfl, hold⟩
    · split at ha
      · cases ha
      · rename_i hne
        refine .inl ⟨⟨a, ha, rfl⟩, ?_⟩
        rw [hcolumn]
        exact fun heq => hne (hname heq).symm

end

/-! ## Joins -/

section

variable {ρ γ κ ι β : Type} [DecidableEq κ] [DecidableEq ι]

/-- `rows JOIN contents ON column = reference`, with a value of the row found. -/
def join (reference : ρ → κ) (rows : List ρ) (column : γ → κ) (value : γ → β) (contents : List γ) :
    List (ρ × β) :=
  rows.flatMap fun row =>
    (contents.filter fun content => column content = reference row).map
      fun content => (row, value content)

variable {reference : ρ → κ} {rows : List ρ} {column : γ → κ} {value : γ → β} {contents : List γ}
  {id : ρ → ι}

theorem mem_join {pair : ρ × β} : pair ∈ join reference rows column value contents ↔
    pair.1 ∈ rows ∧ ∃ content ∈ contents, column content = reference pair.1 ∧
      value content = pair.2 := by
  rw [join, List.mem_flatMap]
  constructor
  · rintro ⟨row, hrow, hpair⟩
    obtain ⟨content, hcontent, rfl⟩ := List.mem_map.mp hpair
    rw [List.mem_filter, decide_eq_true_eq] at hcontent
    exact ⟨hrow, content, hcontent.1, hcontent.2, rfl⟩
  · rintro ⟨hrow, content, hcontent, hcolumn, hvalue⟩
    refine ⟨pair.1, hrow, List.mem_map.mpr ⟨content, ?_, by rw [hvalue]⟩⟩
    exact List.mem_filter.mpr ⟨hcontent, by simpa using hcolumn⟩

/-- A condition on the row may be tested before the join. -/
theorem filter_join (keep : ρ → Bool) :
    (join reference rows column value contents).filter (fun pair => keep pair.1) =
      join reference (rows.filter keep) column value contents := by
  induction rows with
  | nil => rfl
  | cons row rows ih =>
      have hcons : ∀ rest : List ρ, join reference (row :: rest) column value contents =
          (contents.filter fun content => column content = reference row).map
            (fun content => (row, value content)) ++ join reference rest column value contents :=
        fun rest => List.flatMap_cons
      rw [hcons, List.filter_append, ih, List.filter_map, List.filter_cons]
      by_cases hkeep : keep row = true
      · rw [if_pos hkeep, hcons]
        congr 2
        rw [List.filter_eq_self]
        intro content _
        exact hkeep
      · rw [if_neg hkeep]
        rw [Bool.not_eq_true] at hkeep
        rw [List.filter_eq_nil_iff.mpr, List.map_nil, List.nil_append]
        intro content _
        dsimp only [Function.comp]
        simp [hkeep]

/-- One row with one content: the join has one pair for it. -/
theorem filter_join_eq (hid : Unique id rows) (hcolumn : Unique column contents) {row : ρ}
    (hrow : row ∈ rows) {content : γ} (hcontent : content ∈ contents)
    (hreference : column content = reference row) :
    (join reference rows column value contents).filter (fun pair => id pair.1 = id row) =
      [(row, value content)] := by
  rw [filter_join fun r => id r = id row, hid.filter_eq hrow, join, List.flatMap_singleton,
    ← hreference, hcolumn.filter_eq hcontent]
  rfl

theorem filter_join_eq_nil {k : ι} (h : ∀ row ∈ rows, id row ≠ k) :
    (join reference rows column value contents).filter (fun pair => id pair.1 = k) = [] := by
  rw [List.filter_eq_nil_iff]
  intro pair hpair
  simpa using h pair.1 (mem_join.mp hpair).1

end

end Superorganism.Sql
