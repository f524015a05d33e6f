import MarlinspikeDpi.Foundation.Table

/-!
# Tables that follow their inputs key by key

Every input has a key and computes the next value under it from the value that is there.
-/

namespace MarlinspikeDpi.KeyedFold

variable {κ ν α : Type} [DecidableEq κ]

def step (key : α → κ) (next : Option ν → α → ν) (t : Table κ ν) (x : α) : Table κ ν :=
  t.insert (key x) (next (t.lookup (key x)) x)

def run (key : α → κ) (next : Option ν → α → ν) (t : Table κ ν) (xs : List α) : Table κ ν :=
  xs.foldl (step key next) t

def inputsAt (key : α → κ) (k : κ) (xs : List α) : List α := xs.filter fun x => key x = k

def fold (next : Option ν → α → ν) (before : Option ν) (xs : List α) : Option ν :=
  xs.foldl (fun value x => some (next value x)) before

lemma lookup_run (key : α → κ) (next : Option ν → α → ν) (t : Table κ ν) (xs : List α)
    (k : κ) : (run key next t xs).lookup k = fold next (t.lookup k) (inputsAt key k xs) := by
  induction xs generalizing t with
  | nil => rfl
  | cons x xs ih =>
    have hstep : (run key next t (x :: xs)).lookup k =
        fold next ((step key next t x).lookup k) (inputsAt key k xs) := ih _
    rw [hstep]
    by_cases hkey : key x = k
    · -- the input is the first one of the fold
      subst hkey
      simp [inputsAt, fold, step, AList.lookup_insert]
    · -- another key's value is left alone
      simp [inputsAt, hkey, step, AList.lookup_insert_ne (Ne.symm hkey)]

end MarlinspikeDpi.KeyedFold
