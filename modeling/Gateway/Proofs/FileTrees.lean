import Gateway.FileTree
import Gateway.Proofs.FiniteMaps

/-! # Trees of files: what stands at a path, however the directories are listed -/
namespace Gateway

namespace Assoc
variable {α : Type}

theorem get?_eq_some_iff {m : Assoc α} (hm : (keys m).Nodup) {k : String} {a : α} :
    get? k m = some a ↔ (k, a) ∈ m :=
  ⟨mem_of_get?, get?_of_mem hm⟩

end Assoc

namespace FileTree
variable {t u : FileTree} {entries : List (String × FileTree)}

@[simp] theorem at?_nil (t : FileTree) : t.at? [] = some t := rfl

/-- No directory lists a name twice. -/
inductive WellNamed : FileTree → Prop
  | file (bytes : Text.Bytes) (modified : Int) : WellNamed (file bytes modified)
  | closed : WellNamed closed
  | directory {entries : List (String × FileTree)} (nodup : (Assoc.keys entries).Nodup)
      (below : ∀ e ∈ entries, WellNamed e.2) : WellNamed (directory entries)

theorem WellNamed.nodup_keys (h : (FileTree.directory entries).WellNamed) :
    (Assoc.keys entries).Nodup := by
  cases h with
  | directory nodup _ => exact nodup

theorem WellNamed.of_mem (h : (FileTree.directory entries).WellNamed) {e : String × FileTree}
    (he : e ∈ entries) : e.2.WellNamed := by
  cases h with
  | directory _ below => exact below e he

/-- The same tree listed in another way: each of its directories may give its entries in any
order. -/
inductive Relisted : FileTree → FileTree → Prop
  | refl (t : FileTree) : Relisted t t
  | perm {entries others : List (String × FileTree)} (h : entries.Perm others) :
      Relisted (directory entries) (directory others)
  | entry {before after : List (String × FileTree)} {name : String} {t u : FileTree}
      (h : Relisted t u) :
      Relisted (directory (before ++ (name, t) :: after)) (directory (before ++ (name, u) :: after))
  | trans {t u v : FileTree} (htu : Relisted t u) (huv : Relisted u v) : Relisted t v

namespace Relisted

theorem symm (h : Relisted t u) : Relisted u t := by
  induction h with
  | refl t => exact refl t
  | perm h => exact perm h.symm
  | entry _ ih => exact entry ih
  | trans _ _ ihtu ihuv => exact trans ihuv ihtu

theorem wellNamed (h : Relisted t u) (ht : t.WellNamed) : u.WellNamed := by
  induction h with
  | refl => exact ht
  | perm hperm =>
    refine .directory ((hperm.map Prod.fst).nodup_iff.mp ht.nodup_keys) fun e he => ?_
    exact ht.of_mem (hperm.mem_iff.mpr he)
  | @entry before after name t u _ ih =>
    refine .directory (by simpa [Assoc.keys] using ht.nodup_keys) fun e he => ?_
    rcases List.mem_append.mp he with he | he
    · exact ht.of_mem (List.mem_append_left _ he)
    · rcases List.mem_cons.mp he with rfl | he
      · exact ih (ht.of_mem (e := (name, t)) (by simp))
      · exact ht.of_mem (List.mem_append_right _ (List.mem_cons_of_mem _ he))
  | trans _ _ ihtu ihuv => exact ihuv (ihtu ht)

end Relisted
end FileTree
end Gateway
