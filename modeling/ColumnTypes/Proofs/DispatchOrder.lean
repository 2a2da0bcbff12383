import ColumnTypes.Proofs.Grammar
import Mathlib.Data.List.Nodup

/-!
The order of the table of constructs is of no account. Openings that one text begins with are prefixes of
each other, so if no two are equal the longest is told apart from all others without reference to an
order. Reading asks the table for nothing else.
-/

namespace ColumnTypes

open Text

variable {table table' : List Construct} {text : Text} {c c' : Construct}

namespace Construct

/-- No two constructs of a table have the same opening. -/
def Distinct (table : List Construct) : Prop := (table.map opening).Nodup

instance : Decidable (Distinct table) := inferInstanceAs (Decidable (List.Nodup _))

/-- A text begins with the opening of `c`, and the opening of any other construct of the table that it
begins with is a proper prefix of that. -/
structure Dominates (table : List Construct) (text : Text) (c : Construct) : Prop where
  mem : c ∈ table
  opens : c.opening <+: text
  proper : ∀ c' ∈ table, c' ≠ c → c'.opening <+: text →
    c'.opening <+: c.opening ∧ c'.opening ≠ c.opening

theorem longest?_eq_none_iff : longest? table text = none ↔ ∀ c ∈ table, ¬c.opening <+: text := by
  rcases longest?_spec table text with ⟨hn, h⟩ | ⟨c, hc, hs, hp, -⟩
  · exact iff_of_true hn h
  · exact iff_of_false (by simp [hs]) fun h => h c hc hp

theorem Distinct.eq_of_opening_eq (hd : Distinct table) (hc : c ∈ table) (hc' : c' ∈ table)
    (he : c.opening = c'.opening) : c = c' :=
  List.inj_on_of_nodup_map hd hc hc' he

/-- With distinct openings the longest one that fits dominates, and no other does. -/
theorem Distinct.longest?_eq_some_iff (hd : Distinct table) :
    longest? table text = some c ↔ Dominates table text c := by
  constructor
  · intro h
    rcases longest?_spec table text with ⟨hn, -⟩ | ⟨c', hc', hs, hp, hl⟩
    · rw [h] at hn
      cases hn
    · obtain rfl : c = c' := Option.some.inj (h.symm.trans hs)
      refine ⟨hc', hp, fun other ho hne hpo => ?_⟩
      have hpre : other.opening <+: c.opening := List.prefix_of_prefix_length_le hpo hp (hl other ho hpo)
      exact ⟨hpre, fun he => hne (hd.eq_of_opening_eq ho hc' he)⟩
  · intro h
    rcases longest?_spec table text with ⟨-, hn⟩ | ⟨c', hc', hs, hp, hl⟩
    · exact absurd h.opens (hn c h.mem)
    · rw [hs]
      by_contra hne
      -- the longest one would be a proper prefix of another that fits
      obtain ⟨hpre, he⟩ := h.proper c' hc' (by simpa using hne) hp
      exact he (hpre.eq_of_length_le (hl c h.mem h.opens))

theorem Dominates.perm (hp : table.Perm table') (h : Dominates table text c) : Dominates table' text c :=
  ⟨hp.mem_iff.1 h.mem, h.opens, fun c' hc' => h.proper c' (hp.mem_iff.2 hc')⟩

theorem Distinct.perm (hp : table.Perm table') (hd : Distinct table) : Distinct table' :=
  (hp.map opening).nodup_iff.1 hd

theorem Distinct.longest?_perm (hd : Distinct table) (hp : table.Perm table') (text : Text) :
    longest? table text = longest? table' text := by
  apply Option.ext
  intro c
  rw [hd.longest?_eq_some_iff, (hd.perm hp).longest?_eq_some_iff]
  exact ⟨.perm hp, .perm hp.symm⟩

end Construct

/-! ### Reading with a table -/

/-- Reading a level asks the table only for the construct that a text begins with. -/
theorem Level.read_congr (h : ∀ text, Construct.longest? table text = Construct.longest? table' text) :
    Level.read table text = Level.read table' text := by
  simp only [Level.read, Head.read, h]

namespace ColumnType

theorem parseFragment_congr
    (h : ∀ text, Construct.longest? table text = Construct.longest? table' text) (text : Text) :
    parseFragment table text = parseFragment table' text := by
  induction text using parts_induction table with
  | step text ih =>
    rw [parseFragment_eq, parseFragment_eq, ← Level.read_congr h]
    cases hl : Level.read table text with
    | error e => rfl
    | ok level =>
      replace ih := ih level hl
      cases level with
      | whole type => rfl
      | array element | nullable inner => simp only [ih _ List.mem_cons_self]
      | tuple elements =>
        have he : elements.mapM (parseFragment table) = elements.mapM (parseFragment table') :=
          mapM_congr ih
        simp only [he]
      | map key value =>
        have hk := ih key List.mem_cons_self
        have hv := ih value (List.mem_cons_of_mem _ List.mem_cons_self)
        simp only [hk, hv]

theorem parseWith_congr
    (h : ∀ text, Construct.longest? table text = Construct.longest? table' text) (text : Text) :
    parseWith table text = parseWith table' text := by
  simp only [parseWith, parseFragment_congr h]

end ColumnType

/-- Two tables of the same constructs, with distinct openings, dispatch every text alike: to the one
construct whose opening the text begins with and of which all other such openings are proper prefixes, or
to none if the text begins with no opening. So they read the same types, and the table of all constructs
may stand in any order. -/
theorem dispatch_independent_of_order :
    (∀ table table', Construct.Distinct table → table.Perm table' → ∀ text,
      Construct.longest? table text = Construct.longest? table' text ∧
      (Construct.longest? table text = none ↔ ∀ c ∈ table, ¬c.opening <+: text) ∧
      (∀ c, Construct.longest? table text = some c ↔ Construct.Dominates table text c) ∧
      ColumnType.parseWith table text = ColumnType.parseWith table' text) ∧
    ∀ table, constructs.Perm table → ∀ text,
      ColumnType.parseWith table text = ColumnType.parse text := by
  have parse_perm : ∀ {table table' : List Construct}, Construct.Distinct table →
      table.Perm table' → ∀ text, ColumnType.parseWith table text = ColumnType.parseWith table' text :=
    fun hd hp => ColumnType.parseWith_congr (hd.longest?_perm hp)
  refine ⟨fun table table' hd hp text => ⟨hd.longest?_perm hp text, Construct.longest?_eq_none_iff,
    fun c => hd.longest?_eq_some_iff, parse_perm hd hp text⟩, fun table hp text => ?_⟩
  rw [ColumnType.parse]
  exact (parse_perm (by decide) hp text).symm

/-- Four openings, each a prefix of the next, are told apart the other way round as well. -/
theorem dispatch_independent_of_order_of_nested_openings :
    let table : List Construct :=
      [⟨"D", .array⟩, ⟨"Dec", .nullable⟩, ⟨"Decimal(", .decimal⟩, ⟨"Decimal(1", .decimal256⟩]
    (Construct.Distinct table ∧ table.Perm table.reverse ∧
      Construct.longest? table.reverse "Decimal(2)" = some ⟨"Decimal(", .decimal⟩ ∧
      Construct.longest? table.reverse "decimal" = none) ∧
    constructs.Perm constructs.reverse ∧
      ColumnType.parseWith constructs.reverse "Decimal256(10, 2)" = .ok (.decimal256 10 2) := by
  intro table
  have hd : Construct.Distinct table := by decide
  have hp : table.Perm table.reverse := (List.reverse_perm table).symm
  have hc : constructs.Perm constructs.reverse := (List.reverse_perm constructs).symm
  obtain ⟨hs, hr⟩ := dispatch_independent_of_order
  refine ⟨⟨hd, hp, ?_, ?_⟩, hc, ?_⟩
  · rw [← (hs table _ hd hp _).1]
    decide
  · rw [← (hs table _ hd hp _).1]
    decide
  · rw [hr _ hc]
    exact toOption_eq_some_iff.1 (by decide +kernel)

end ColumnTypes
