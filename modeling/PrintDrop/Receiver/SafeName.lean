/-
# Safe names

What the sanitizer writes is exactly the safe names: each of its outputs is one, and each
of them is left as it is. The file sink sanitizes the name it is given once more and
refuses one that changes, which no output of the sanitizer does.
-/

import PrintDrop.Wire.DeviceName
import PrintDrop.Receiver.FileSink

namespace PrintDrop

variable {input name : Bytes} {capacity : ℕ}

theorem filenameSanitize_of_safeName (hsafe : SafeName name) (hcapacity : name.length < capacity) :
    filenameSanitize (some name) (some capacity) = ⟨.ok, some name, name.length + 1⟩ := by
  rw [filenameSanitize_eq hsafe.length, sanitized_of_safeName hsafe,
    if_neg (Nat.not_lt.mpr hsafe.length), if_neg (Nat.not_le.mpr hcapacity)]

/-- The sink does not refuse a safe name for its bytes. -/
theorem win32FileSinkInit_of_safeName (multiByteToWideChar : Bytes → Option WideString)
    (c : Win32SinkContext) (rootDirectory : WideString) (jobId : Bytes) (hsafe : SafeName name) :
    (win32FileSinkInit multiByteToWideChar c rootDirectory jobId name).1 ≠ .invalidFilename := by
  have hchecked : filenameSanitize (some name) (some filenameCapacity) =
      ⟨.ok, some name, name.length + 1⟩ :=
    filenameSanitize_of_safeName hsafe (Nat.lt_succ_of_le hsafe.length)
  simp only [win32FileSinkInit, hchecked, ne_eq, not_true_eq_false, or_self, if_false]
  repeat' split
  all_goals exact (by rintro ⟨⟩)

/-- An input that fits has a result that does not only if the underscore is in the way. -/
theorem length_sanitized (hinput : input.length ≤ filenameMaxBytes) :
    filenameMaxBytes < (sanitized input).length ↔
      IsReserved (baseName (sanitizeCandidate input)) ∧
        filenameMaxBytes < (sanitizeCandidate input).length + 1 := by
  by_cases hreserved : IsReserved (baseName (sanitizeCandidate input))
  · rw [sanitized, sanitizePrefix_of_reserved hreserved, List.length_append, Nat.add_comm]
    exact (and_iff_right hreserved).symm
  · have hlength := (safeFilename_sanitizeCandidate hinput).length
    rw [sanitized, sanitizePrefix_of_notReserved hreserved]
    exact iff_of_false (Nat.not_lt.mpr hlength) fun h => hreserved h.1

/-- The sanitizer's outputs are exactly the safe names, and they are stable. A success is
a safe name with its length and the terminator as the required capacity; it is sanitized
to itself and the file sink takes it. A safe name is returned unchanged. An input that is
not too long is refused only where the underscore does not fit, and is otherwise written
to every capacity from the required one on, which 121 bytes are; below it nothing but an
empty string is. -/
theorem filenameSanitize_safeNames (input : Bytes) (capacity : ℕ) :
    let r := filenameSanitize (some input) (some capacity)
    (r.result = .ok → ∃ name, r.output = some name ∧ SafeName name ∧
      r.requiredCapacity = name.length + 1 ∧
      (∀ again, name.length < again →
        filenameSanitize (some name) (some again) = ⟨.ok, some name, name.length + 1⟩) ∧
      ∀ multiByteToWideChar c rootDirectory jobId,
        (win32FileSinkInit multiByteToWideChar c rootDirectory jobId name).1 ≠
          .invalidFilename) ∧
    (SafeName input → input.length < capacity → r = ⟨.ok, some input, input.length + 1⟩) ∧
    (input.length ≤ filenameMaxBytes →
      (r.result = .tooLong ↔ IsReserved (baseName (sanitizeCandidate input)) ∧
        filenameMaxBytes < (sanitizeCandidate input).length + 1) ∧
      (r.result ≠ .tooLong →
        (r.result = .ok ↔ r.requiredCapacity ≤ capacity) ∧
          r.requiredCapacity ≤ filenameCapacity)) ∧
    (r.result ≠ .ok → r.output = none ∨ r.output = some []) := by
  have houtcome := filenameSanitize_outcome input capacity
  generalize filenameSanitize (some input) (some capacity) = r at houtcome
  cases houtcome with
  | tooLong hlong =>
      refine ⟨(by rintro ⟨⟩), ?_, ?_, fun _ => .inl rfl⟩
      · intro hsafe _
        rw [sanitized_of_safeName hsafe, or_self] at hlong
        exact absurd hsafe.length (Nat.not_le.mpr hlong)
      · intro hinput
        have hresult := hlong.resolve_left (Nat.not_lt.mpr hinput)
        exact ⟨iff_of_true rfl ((length_sanitized hinput).mp hresult), fun h => absurd rfl h⟩
  | bufferTooSmall hinput hfits hsmall output hempty =>
      refine ⟨(by rintro ⟨⟩), ?_, ?_, fun _ => hempty⟩
      · intro hsafe hcapacity
        rw [sanitized_of_safeName hsafe] at hsmall
        exact absurd hsmall (Nat.not_le.mpr hcapacity)
      · intro _
        refine ⟨iff_of_false (by rintro ⟨⟩) ?_, fun _ => ⟨iff_of_false (by rintro ⟨⟩) ?_, ?_⟩⟩
        · exact mt (length_sanitized hinput).mpr (Nat.not_lt.mpr hfits)
        · exact Nat.not_le.mpr (Nat.lt_succ_of_le hsmall)
        · exact Nat.succ_le_succ hfits
  | ok hinput hfits hroom =>
      have hsafe := safeName_sanitized hinput hfits
      refine ⟨fun _ => ⟨sanitized input, rfl, hsafe, rfl, ?_, ?_⟩, ?_, ?_, ?_⟩
      · intro again hagain
        exact filenameSanitize_of_safeName hsafe hagain
      · intro multiByteToWideChar c rootDirectory jobId
        exact win32FileSinkInit_of_safeName multiByteToWideChar c rootDirectory jobId hsafe
      · intro hinputSafe _
        rw [sanitized_of_safeName hinputSafe]
      · intro _
        refine ⟨iff_of_false (by rintro ⟨⟩) ?_, fun _ => ⟨iff_of_true rfl hroom, ?_⟩⟩
        · exact mt (length_sanitized hinput).mpr (Nat.not_lt.mpr hfits)
        · exact Nat.succ_le_succ hfits
      · exact fun hnot => absurd rfl hnot

/-- The name `con.txt` is written with an underscore, and again as it then is. -/
theorem filenameSanitize_safeNames_con :
    ∃ name, (filenameSanitize (some (ascii ['c', 'o', 'n', '.', 't', 'x', 't'])) (some 9)).output =
        some name ∧ SafeName name ∧
      filenameSanitize (some name) (some (name.length + 1)) =
        ⟨.ok, some name, name.length + 1⟩ := by
  obtain ⟨name, houtput, hsafe, -, hagain, -⟩ :=
    (filenameSanitize_safeNames (ascii ['c', 'o', 'n', '.', 't', 'x', 't']) 9).1 (by decide)
  exact ⟨name, houtput, hsafe, hagain _ (Nat.lt_succ_self _)⟩

end PrintDrop
