import Mathlib.Algebra.GroupWithZero.Nat

/-!
# Chunks of bytes

What is sent or read in chunks, put together in one array of bytes.
-/

namespace FormspecWeb.Shared

/-- `bytes.set(chunk, offset)`. -/
def setBytes (bytes chunk : List UInt8) (offset : Nat) : List UInt8 :=
  bytes.take offset ++ chunk ++ bytes.drop (offset + chunk.length)

/-- The chunks, one behind the other, in as many bytes as they have together. -/
def joinChunks (chunks : List (List UInt8)) (byteCount : Nat) : List UInt8 :=
  (chunks.foldl (fun (bytes, offset) chunk => (setBytes bytes chunk offset, offset + chunk.length))
    (List.replicate byteCount 0, 0)).1

theorem setBytes_append {front rest chunk : List UInt8} :
    setBytes (front ++ rest) chunk front.length = front ++ chunk ++ rest.drop chunk.length := by
  rw [setBytes, List.take_left, List.drop_append]
  have hfront : front.drop (front.length + chunk.length) = [] :=
    List.drop_eq_nil_of_le (Nat.le_add_right _ _)
  rw [hfront, List.nil_append, Nat.add_sub_cancel_left]

theorem joinChunks_from {chunks : List (List UInt8)} {front rest : List UInt8}
    (h : rest.length = (chunks.map (·.length)).sum) :
    (chunks.foldl (fun (bytes, offset) chunk => (setBytes bytes chunk offset, offset + chunk.length))
      (front ++ rest, front.length)).1 = front ++ chunks.flatten := by
  induction chunks generalizing front rest with
  | nil =>
    rw [List.map_nil, List.sum_nil, List.length_eq_zero_iff] at h
    rw [h]
    rfl
  | cons chunk chunks ih =>
    rw [List.map_cons, List.sum_cons] at h
    have hrest : (rest.drop chunk.length).length = (chunks.map (·.length)).sum := by
      rw [List.length_drop]
      omega
    rw [List.foldl_cons]
    simp only
    rw [setBytes_append, ← List.length_append, ih hrest, List.flatten_cons,
      List.append_assoc]

theorem joinChunks_eq {chunks : List (List UInt8)} :
    joinChunks chunks (chunks.map (·.length)).sum = chunks.flatten := by
  have hlength : (List.replicate (chunks.map (·.length)).sum (0 : UInt8)).length
      = (chunks.map (·.length)).sum := List.length_replicate
  have h := @joinChunks_from chunks [] _ hlength
  rwa [List.nil_append, List.nil_append] at h

end FormspecWeb.Shared
