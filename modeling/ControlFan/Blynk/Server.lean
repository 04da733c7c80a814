import ControlFan.Blynk.Task

/-!
# Blynk — the server option

`blynk_set_options` completes the server option with the default port, or with the whole default
address; `blynk_loop` copies 127 bytes of it and cuts them at the first `:` into the host and the
port for `getaddrinfo`. The search for a port in the first function goes over the whole array, the
one in the second over the copied string.

* **`serverAddress`** — what `blynk_loop` passes to `getaddrinfo`;
* **`Options.given`** — the host and the port that the options ask for;
* **`server_honoured_iff`** — for which options these are the same.
-/

namespace ControlFan.Blynk

open CString

/-! ## The address -/

/-- The two strings around the first `:`, or none. -/
def splitColon (s : List UInt8) : Option (List UInt8 × List UInt8) :=
  if colon ∈ s then some (s.takeWhile (· ≠ colon), (s.dropWhile (· ≠ colon)).tail) else none

/-- `hostname` and `servname` in `blynk_loop`; `none` for `BLYNK_ERR_INVALID_OPTION`. -/
def serverAddress (opt : Options) : Option (List UInt8 × List UInt8) :=
  splitColon (cstr (strlcpy (CArray.zero 128) opt.server.bytes).bytes)

/-- The host and the port that the options ask for, before any function has touched them. -/
def Options.given (opt : Options) : List UInt8 × List UInt8 :=
  if cstr opt.server.bytes = [] then (defaultServer, defaultPort)
  else (splitColon (cstr opt.server.bytes)).getD (cstr opt.server.bytes, defaultPort)

theorem serverAddress_eq (opt : Options) :
    serverAddress opt = splitColon ((cstr opt.server.bytes).take 127) := by
  unfold serverAddress
  rw [cstr_strlcpy]

/-! ## Cutting a string -/

section Split

variable {s host port : List UInt8}

theorem splitColon_append (h : colon ∉ host) (port : List UInt8) :
    splitColon (host ++ colon :: port) = some (host, port) := by
  have hall : ∀ b ∈ host, decide (b ≠ colon) = true := by
    intro b hb
    exact decide_eq_true fun heq => h (heq ▸ hb)
  unfold splitColon
  rw [if_pos (List.mem_append_right _ List.mem_cons_self), List.takeWhile_append_of_pos hall,
    List.dropWhile_append_of_pos hall]
  simp

theorem splitColon_eq_some (h : splitColon s = some (host, port)) :
    s = host ++ colon :: port ∧ colon ∉ host := by
  unfold splitColon at h
  split_ifs at h with hcolon
  obtain ⟨pre, post, rfl, hpre⟩ := List.eq_append_cons_of_mem hcolon
  have hsplit := splitColon_append hpre post
  unfold splitColon at hsplit
  rw [if_pos hcolon] at hsplit
  rw [hsplit] at h
  cases h
  exact ⟨rfl, hpre⟩

theorem splitColon_of_mem (h : colon ∈ s) : ∃ host port, splitColon s = some (host, port) :=
  ⟨_, _, if_pos h⟩

/-- A string with a `:` is cut in the same way behind a truncation, exactly if nothing is lost. -/
theorem splitColon_take_iff (h : colon ∈ s) (n : Nat) :
    splitColon (s.take n) = splitColon s ↔ s.length ≤ n := by
  constructor
  · intro hsame
    obtain ⟨host, port, hsplit⟩ := splitColon_of_mem h
    have hfull := (splitColon_eq_some hsplit).1
    have hcut := (splitColon_eq_some (hsame.trans hsplit)).1
    have hlength := congrArg List.length (hcut.trans hfull.symm)
    rw [List.length_take] at hlength
    omega
  · intro hle
    rw [List.take_of_length_le hle]

end Split

/-! ## The option -/

/-- The option behind `snprintf` of a text. -/
theorem serverAddress_printed {opt : Options} {server : CArray 255} {text : List UInt8}
    (hopt : opt.server = strlcpy server text) (htext : 0 ∉ text) :
    serverAddress opt = splitColon (text.take 127) := by
  rw [serverAddress_eq, hopt, cstr_strlcpy, cstr_eq_self htext, List.take_take]
  rfl

/-- The options for which the server is honoured: an empty server; one with a port, which fits into
`hostname`; one without, if there is no `:` in the bytes behind it either and the default port
fits. -/
def Options.wellServed (opt : Options) : Prop :=
  cstr opt.server.bytes = []
    ∨ (colon ∈ cstr opt.server.bytes ∧ (cstr opt.server.bytes).length ≤ 127)
    ∨ (colon ∉ opt.server.bytes ∧ (cstr opt.server.bytes).length ≤ 124)

section Cases

variable {opt : Options}

theorem honoured_empty {stored : Options} (hempty : cstr opt.server.bytes = [])
    (hstored : stored.server = strlcpy opt.server (defaultServer ++ colon :: defaultPort)) :
    serverAddress stored = some opt.given := by
  rw [serverAddress_printed hstored (by decide)]
  unfold Options.given
  rw [if_pos hempty]
  decide

/-- The option has its own port. -/
theorem honoured_port_iff {stored : Options} (hcolon : colon ∈ cstr opt.server.bytes)
    (hstored : stored.server = opt.server) :
    serverAddress stored = some opt.given ↔ (cstr opt.server.bytes).length ≤ 127 := by
  obtain ⟨host, port, hsplit⟩ := splitColon_of_mem hcolon
  have hgiven : some opt.given = splitColon (cstr opt.server.bytes) := by
    unfold Options.given
    rw [if_neg (List.ne_nil_of_mem hcolon), hsplit]
    rfl
  rw [serverAddress_eq, hstored, hgiven]
  exact splitColon_take_iff hcolon 127

/-- The option gets the default port. -/
theorem honoured_default_iff {stored : Options} (hempty : cstr opt.server.bytes ≠ [])
    (hcolon : colon ∉ cstr opt.server.bytes)
    (hstored : stored.server
      = strlcpy opt.server (cstr opt.server.bytes ++ colon :: defaultPort)) :
    serverAddress stored = some opt.given ↔ (cstr opt.server.bytes).length ≤ 124 := by
  have htext : 0 ∉ cstr opt.server.bytes ++ colon :: defaultPort := by
    rw [List.mem_append, not_or]
    exact ⟨zero_notMem_cstr _, by decide⟩
  have hgiven : some opt.given = splitColon (cstr opt.server.bytes ++ colon :: defaultPort) := by
    unfold Options.given
    rw [if_neg hempty, splitColon_append hcolon, splitColon, if_neg hcolon]
    rfl
  rw [serverAddress_printed hstored htext, hgiven,
    splitColon_take_iff (List.mem_append_right _ List.mem_cons_self), List.length_append]
  show (cstr opt.server.bytes).length + 3 ≤ 127 ↔ _
  omega

/-- The `:` that `memchr` finds is behind the string. -/
theorem not_honoured_hidden {stored : Options} (hcolon : colon ∉ cstr opt.server.bytes)
    (hstored : stored.server = opt.server) : serverAddress stored ≠ some opt.given := by
  rw [serverAddress_eq, hstored, splitColon, if_neg fun hmem => hcolon (List.mem_of_mem_take hmem)]
  exact (Option.some_ne_none _).symm

theorem colon_mem_of_cstr (h : colon ∈ cstr opt.server.bytes) : colon ∈ opt.server.bytes :=
  (List.takeWhile_prefix _).subset h

end Cases

/-- The server that `blynk_set_options` stores. -/
theorem server_blynkSetOptions {opt stored : Options} (h : blynkSetOptions opt = some stored) :
    stored.server
      = if deref opt.server.bytes = 0 then
          strlcpy opt.server (defaultServer ++ colon :: defaultPort)
        else if colon ∉ opt.server.bytes then
          strlcpy opt.server (cstr opt.server.bytes ++ colon :: defaultPort)
        else opt.server := by
  unfold blynkSetOptions at h
  rcases eq_or_ne (deref opt.token.bytes) 0 with htoken | htoken
  · rw [if_pos htoken] at h
    cases h
  · rw [if_neg htoken] at h
    cases h
    rfl

/-- **The server option.** For all options that `blynk_set_options` accepts, whatever stands behind
the server in its array, `blynk_loop` asks `getaddrinfo` for the host and the port that were given,
exactly if the server is empty, or its port is part of a string of at most 127 bytes, or it has no
port, there is no `:` in the rest of the array, and it has at most 124 bytes. -/
theorem server_honoured_iff {opt stored : Options} (h : blynkSetOptions opt = some stored) :
    serverAddress stored = some opt.given ↔ opt.wellServed := by
  have hstored := server_blynkSetOptions h
  unfold Options.wellServed
  rcases eq_or_ne (cstr opt.server.bytes) [] with hempty | hempty
  · rw [if_pos ((deref_eq_zero_iff _).mpr hempty)] at hstored
    exact iff_of_true (honoured_empty hempty hstored) (Or.inl hempty)
  · rw [if_neg fun hzero => hempty ((deref_eq_zero_iff _).mp hzero)] at hstored
    rw [or_iff_right hempty]
    rcases Decidable.em (colon ∈ opt.server.bytes) with hmem | hmem
    · rw [if_neg (not_not.mpr hmem)] at hstored
      rcases Decidable.em (colon ∈ cstr opt.server.bytes) with hcolon | hcolon
      · rw [honoured_port_iff hcolon hstored]
        simp [hcolon, hmem]
      · exact iff_of_false (not_honoured_hidden hcolon hstored) (by simp [hcolon, hmem])
    · rw [if_pos hmem] at hstored
      have hcolon : colon ∉ cstr opt.server.bytes := fun hin => hmem (colon_mem_of_cstr hin)
      rw [honoured_default_iff hempty hcolon hstored]
      simp [hcolon, hmem]

/-- Options with a server that has a port: `a:7`. -/
def portOptions : Options :=
  { sampleOptions with server := (((CArray.zero 255).set 0 97).set 1 colon).set 2 55 }

theorem server_honoured_port :
    blynkSetOptions portOptions
        = some { portOptions with reconnectDelay := 5000, pingInterval := 2000, timeout := 5000 }
      ∧ serverAddress
          { portOptions with reconnectDelay := 5000, pingInterval := 2000, timeout := 5000 }
        = some portOptions.given := by
  have hset : blynkSetOptions portOptions
      = some { portOptions with reconnectDelay := 5000, pingInterval := 2000, timeout := 5000 } := by
    decide +kernel
  refine ⟨hset, (server_honoured_iff hset).mpr (Or.inr (Or.inl ?_))⟩
  decide +kernel

/-- The server option `a`, with a `:` behind its NUL: `blynk_set_options` finds the port there that
`blynk_loop` misses. -/
def hiddenPort : Options :=
  { sampleOptions with server := ((CArray.zero 255).set 0 97).set 2 colon }

theorem hidden_port_not_honoured :
    ∃ stored, blynkSetOptions hiddenPort = some stored ∧ serverAddress stored = none
      ∧ serverAddress stored ≠ some hiddenPort.given := by
  refine ⟨{ hiddenPort with reconnectDelay := 5000, pingInterval := 2000, timeout := 5000 },
    ?_, ?_, ?_⟩
  · decide +kernel
  · decide +kernel
  · decide +kernel

end ControlFan.Blynk
