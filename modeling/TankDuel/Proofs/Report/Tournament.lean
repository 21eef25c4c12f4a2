import TankDuel.Proofs.Text.Csv
import TankDuel.Proofs.Text.Decimal
import TankDuel.Report.Tournament

/-!
# Reading a table of standings

The table for other programs writes every field as it is, the names of the entries among them. So it
is read as what it is meant to say just as long as no name needs quotes: none has a comma, a quote
or a line feed in it (`Report.tournamentCsv_reads_iff`). A table that is always read could be
written, with quotes.

`Report.comma_splits_name` is a tournament where the name of an entry has a comma in it. Its record
has a field too many.
-/

namespace TankDuel.Report

open Text

variable {rank : Nat}

/-- The fields in the record of a standing. -/
def standingFields (rank : Nat) (s : Standing) : List (List Char) :=
  [(toString rank).toList, s.name.toList, (toString s.played).toList, (toString s.wins).toList,
    (toString s.draws).toList, (toString s.losses).toList, (toString s.points).toList]

/-- The fields of the heading. -/
def headingFields : List (List Char) :=
  ["rank", "program", "played", "wins", "draws", "losses", "points"].map String.toList

/-- What the table is meant to say: a heading, and behind it the standings in order, with their
ranks counted from 1. -/
def tableFields (r : TournamentResult) : List (List (List Char)) :=
  headingFields :: (r.standings.zipIdx 1).map fun (s, rank) => standingFields rank s

/-- The record of a standing is its fields with commas between them. -/
private theorem toList_standingRecord (s : Standing) :
    (standingRecord rank s).toList = Csv.joined (standingFields rank s) := by
  have comma : (toString ",").toList = [','] := rfl
  have feed : (toString "\n").toList = ['\n'] := rfl
  simp only [standingRecord, standingFields, Csv.joined, String.toList_append, comma, feed,
    List.append_assoc, List.singleton_append]
  rfl

/-- The records of the standings stand one after another. -/
private theorem toList_ranked (standings : List Standing) :
    (ranked standingRecord rank standings).toList =
      ((standings.zipIdx rank).map fun (s, rank) => standingFields rank s).flatMap Csv.joined := by
  induction standings generalizing rank with
  | nil => rfl
  | cons s rest ih =>
    rw [ranked, String.toList_append, toList_standingRecord, ih, List.zipIdx_cons, List.map_cons,
      List.flatMap_cons]

/-- Every field is written as it is. -/
private theorem toList_tournamentCsv (r : TournamentResult) :
    (tournamentCsv r).toList = (tableFields r).flatMap Csv.joined := by
  have heading : "rank,program,played,wins,draws,losses,points\n".toList =
      Csv.joined headingFields := by decide +kernel
  calc (tournamentCsv r).toList
      = "rank,program,played,wins,draws,losses,points\n".toList ++
          (ranked standingRecord 1 r.standings).toList := String.toList_append
    _ = (tableFields r).flatMap Csv.joined :=
        congrArg₂ (· ++ ·) heading (toList_ranked r.standings)

/-- A number may stand in a table as it is. -/
theorem plain_toString (n : Nat) : Csv.Plain (toString n).toList := by
  intro c hc
  have digit := isDigit_of_mem_toString hc
  rw [Csv.isSpecial, Bool.or_eq_false_iff, Bool.or_eq_false_iff, decide_eq_false_iff_not,
    decide_eq_false_iff_not, decide_eq_false_iff_not]
  refine ⟨⟨?_, ?_⟩, ?_⟩ <;>
  · rintro rfl
    exact absurd digit (by decide)

/-- Numbers need no quotes. -/
private theorem plain_standingFields_iff {s : Standing} :
    (∀ f ∈ standingFields rank s, Csv.Plain f) ↔ Csv.Plain s.name.toList := by
  simp only [standingFields, List.forall_mem_cons, plain_toString, List.not_mem_nil,
    false_imp_iff, implies_true, true_and, and_true]

/-- Every row of the table has fields. -/
private theorem tableFields_ne_nil (r : TournamentResult) : ∀ row ∈ tableFields r, row ≠ [] := by
  intro row hr
  rcases List.mem_cons.mp hr with rfl | hr
  · exact List.cons_ne_nil _ _
  · obtain ⟨_, -, rfl⟩ := List.mem_map.mp hr
    exact List.cons_ne_nil _ _

/-- **When the table is read** as what it is meant to say: if and only if no name has a comma, a
quote or a line feed in it. In no case is there a second way to read it. The standings can be
written so that they are read, whatever the names. -/
theorem tournamentCsv_reads_iff (r : TournamentResult) :
    (Csv.Table (tournamentCsv r).toList (tableFields r) ↔
      ∀ s ∈ r.standings, Csv.Plain s.name.toList) ∧
    (∀ rows rows', Csv.Table (tournamentCsv r).toList rows →
      Csv.Table (tournamentCsv r).toList rows' → rows = rows') ∧
    ∃ text, Csv.Table text (tableFields r) := by
  refine ⟨?_, fun rows rows' table table' => table.unique table',
    _, Csv.table_quoted (tableFields_ne_nil r)⟩
  have heading : ∀ f ∈ headingFields, Csv.Plain f := by decide +kernel
  rw [toList_tournamentCsv, Csv.table_joined_iff (tableFields_ne_nil r), tableFields,
    List.forall_mem_cons, and_iff_right heading, List.forall_mem_map]
  constructor
  · intro plain s hs
    obtain ⟨k, here⟩ := List.getElem?_of_mem hs
    exact plain_standingFields_iff.mp
      (plain (s, 1 + k) (List.mk_add_mem_zipIdx_iff_getElem?.mpr here))
  · rintro plain ⟨s, rank⟩ hs
    exact plain_standingFields_iff.mpr (plain s (List.fst_mem_of_mem_zipIdx hs))

/-- The name of an entry has a comma in it. The table is read all the same, but the record of that
entry has eight fields, and so it is not what the table is meant to say. -/
theorem comma_splits_name :
    let r : TournamentResult :=
      { standings :=
          [{ name := "a,b", played := 2, draws := 2, points := 2 },
            { name := "c", played := 2, draws := 2, points := 2 }]
        records := [] }
    let rows :=
      [headingFields, [['1'], ['a'], ['b'], ['2'], ['0'], ['2'], ['0'], ['2']],
        [['2'], ['c'], ['2'], ['0'], ['2'], ['0'], ['2']]]
    tournamentCsv r =
        "rank,program,played,wins,draws,losses,points\n1,a,b,2,0,2,0,2\n2,c,2,0,2,0,2\n" ∧
      ¬Csv.Table (tournamentCsv r).toList (tableFields r) ∧
      Csv.Table (tournamentCsv r).toList rows := by
  intro r rows
  have text : tournamentCsv r =
      "rank,program,played,wins,draws,losses,points\n1,a,b,2,0,2,0,2\n2,c,2,0,2,0,2\n" := by
    decide +kernel
  -- As a table of the fields the text would need names without commas, and it is one of a row with
  -- a field too many.
  refine ⟨text, fun table => ?_, ?_⟩
  · have plain := (tournamentCsv_reads_iff r).1.mp table _ List.mem_cons_self
    have comma : ¬Csv.Plain "a,b".toList := by decide +kernel
    exact comma plain
  · have written : (tournamentCsv r).toList = rows.flatMap Csv.joined := by
      rw [text]
      decide +kernel
    rw [written, Csv.table_joined_iff (by decide +kernel)]
    decide +kernel

end TankDuel.Report
