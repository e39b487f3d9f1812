import MediaPerimeter.Http.Failure

/-!
# What the details of a failure list

The causes are written down one by one, from the outermost inwards, and the depth is counted on the
way. What comes out are the lines of the first five causes, with a mark behind them just if there is
a sixth. The text of a cause may end like the mark; still the details are the whole list if and only
if it fits.
-/
namespace MediaPerimeter.Failure

variable {depth : Nat}

theorem withCauses_of_lt (h : depth < maxCauses) (details cause : String) (causes : List String) :
    withCauses details depth (cause :: causes) =
      withCauses (details ++ causeLine cause) (depth + 1) causes :=
  if_neg (Nat.not_lt.mpr h)

theorem withCauses_of_le (h : maxCauses ≤ depth) (details cause : String) (causes : List String) :
    withCauses details depth (cause :: causes) = details ++ truncation :=
  if_pos (Nat.lt_succ_of_le h)

/-- Causes where there is room for so many lines. The mark takes no room. -/
def listed (room : Nat) (causes : List String) : String :=
  String.join ((causes.take room).map causeLine) ++ if room < causes.length then truncation else ""

theorem listed_zero_cons (cause : String) (causes : List String) :
    listed 0 (cause :: causes) = truncation := by
  simp [listed]

theorem listed_succ_cons (room : Nat) (cause : String) (causes : List String) :
    listed (room + 1) (cause :: causes) = causeLine cause ++ listed room causes := by
  simp [listed, String.append_assoc]

/-- Each depth that is reached takes the room of one line. -/
theorem withCauses_eq (details : String) (depth : Nat) (causes : List String) :
    withCauses details depth causes = details ++ listed (maxCauses - depth) causes := by
  induction causes generalizing details depth with
  | nil => simp [withCauses, listed]
  | cons cause causes ih =>
    rcases Nat.lt_or_ge depth maxCauses with hdepth | hdepth
    · have hroom : maxCauses - depth = maxCauses - (depth + 1) + 1 := by omega
      rw [withCauses_of_lt hdepth, ih, hroom, listed_succ_cons, String.append_assoc]
    · rw [withCauses_of_le hdepth, Nat.sub_eq_zero_of_le hdepth, listed_zero_cons]

theorem details_eq (f : Failure) : f.details = f.text ++ listed maxCauses f.causes :=
  withCauses_eq f.text 0 f.causes

theorem truncation_ne_causeLine (cause rest : String) : truncation ≠ causeLine cause ++ rest := by
  intro h
  -- the mark and a line begin with the same three characters
  have hchar := congrArg (·.toList[3]?) h
  simp [truncation, causeLine] at hchar

theorem listed_eq_join_iff {room : Nat} {causes : List String} :
    listed room causes = String.join (causes.map causeLine) ↔ causes.length ≤ room := by
  induction causes generalizing room with
  | nil => simp [listed]
  | cons cause causes ih =>
    cases room with
    | zero =>
      rw [listed_zero_cons, List.map_cons, String.join_cons]
      simpa using truncation_ne_causeLine cause _
    | succ room =>
      rw [listed_succ_cons, List.map_cons, String.join_cons, String.append_right_inj, ih,
        List.length_cons, Nat.succ_le_succ_iff]

/-- Behind the text of a failure stand its first five causes in their order, each on a line of its
own, and behind them a mark if there are more. The details are complete, whatever the texts of the
causes are, just if there are no more than five. -/
theorem details_listed (f : Failure) :
    f.details = f.text ++ String.join ((f.causes.take 5).map ("\n  Caused by: " ++ ·)) ++
        (if 5 < f.causes.length then "\n  ... (truncated)" else "") ∧
      (f.details = f.text ++ String.join (f.causes.map ("\n  Caused by: " ++ ·)) ↔
        f.causes.length ≤ 5) := by
  refine ⟨?_, ?_⟩
  · rw [details_eq, String.append_assoc]
    rfl
  · rw [details_eq, String.append_right_inj]
    exact listed_eq_join_iff

/-- The last length of a chain whose details are complete. -/
example : (ofError "a" ["b", "c", "d", "e"]).details =
    "Internal error with source\n  Caused by: a\n  Caused by: b\n  Caused by: c" ++
      "\n  Caused by: d\n  Caused by: e" := by
  decide

end MediaPerimeter.Failure
