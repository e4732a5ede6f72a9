import DesignCompiler.Proofs.Url.Path
import DesignCompiler.Url.Parsing

set_option autoImplicit false

namespace DesignCompiler.Url

theorem Family.separates_slash (family : Family) : family.separates '/' = true := rfl

def Address.IsResolved (a : Address) : Prop := Resolved a.path

theorem isResolved_addressOf (family : Family) (cs : List Char) :
    (addressOf family cs).IsResolved :=
  resolved_pathOf _ family.separates_slash _

theorem isResolved_undivided (cs : List Char) : (undivided cs).IsResolved := Resolved.nil

theorem isResolved_addressBehindAuthority (family : Family) (cs : List Char) :
    (addressBehindAuthority family cs).IsResolved := by
  cases cs with
  | nil =>
    rw [addressBehindAuthority]
    split
    · exact Resolved.nil
    · exact isResolved_addressOf family []
  | cons c cs =>
    rw [addressBehindAuthority]
    split
    · exact isResolved_addressOf family cs
    · split
      · exact isResolved_undivided (c :: cs)
      · exact isResolved_addressOf family (c :: cs)

variable {cs : List Char} {a : Address}

theorem isResolved_of_parseFileAuthority (h : parseFileAuthority cs = .ok a) : a.IsResolved := by
  unfold parseFileAuthority at h
  simp only at h
  split at h
  · cases h
    exact isResolved_addressOf .file cs
  · split at h
    · cases h
      exact isResolved_addressOf .file _
    · cases hhost : readWebHost (cs.takeWhile (!endsAuthority .file ·)) with
      | error cause =>
        rw [hhost] at h
        cases h
      | ok host =>
        rw [hhost] at h
        simp only [bind, Except.bind] at h
        split at h
        · cases h
          exact isResolved_addressOf .file _
        · cases h
          exact isResolved_addressBehindAuthority .file _

theorem isResolved_of_parseFile (h : parseFile cs = .ok a) : a.IsResolved := by
  unfold parseFile at h
  split at h
  · split at h
    · exact isResolved_of_parseFileAuthority h
    · split at h <;> (cases h; exact isResolved_addressOf .file _)
  · cases h
    exact isResolved_addressOf .file _

theorem isResolved_of_parseBehindScheme {family : Family}
    (h : parseBehindScheme family cs = .ok a) : a.IsResolved := by
  have hbehind {family : Family} {rest : Except Fault (List Char)}
      (h : rest.map (addressBehindAuthority family) = .ok a) : a.IsResolved := by
    cases rest with
    | error cause => cases h
    | ok rest =>
      cases h
      exact isResolved_addressBehindAuthority family rest
  unfold parseBehindScheme at h
  split at h
  · exact hbehind h
  · exact isResolved_of_parseFile h
  · split at h
    · exact hbehind h
    · cases h
      exact isResolved_addressOf .other _
    · cases h
      exact isResolved_undivided cs

theorem isResolved_of_parse (h : parse cs = .ok a) : a.IsResolved := by
  unfold parse at h
  split at h
  · cases h
  · exact isResolved_of_parseBehindScheme h

theorem readWebHost_eq_ok {c : Char} {cs written host : List Char} (hc : c ≠ '[')
    (hdecode : Text.decode? (percentDecode (Text.encode (c :: cs))) = some written)
    (hread : Domain.read? written = some host) (hne : host.isEmpty = false)
    (hname : endsInNumber host = false) : readWebHost (c :: cs) = .ok host := by
  have hfirst (rest : List Char) : c :: cs = '[' :: rest → False :=
    fun h => hc (List.cons.inj h).1
  rw [readWebHost.eq_2 _ hfirst, hdecode]
  simp only [Option.elim_some, bind, Except.bind, hread, hne, hname]
  rfl

theorem clean_eq_self (h : ∀ c ∈ cs, IsGraphic c) : clean cs = cs := by
  have hnone : ∀ c ∈ ([] : List Char), (c.toNat ≤ 0x20 : Bool) = true := fun _ hc => nomatch hc
  have hends : Text.dropEnds (·.toNat ≤ 0x20) ([] ++ cs ++ []) = cs :=
    Text.dropEnds_append hnone (fun c hc => decide_eq_false (Nat.not_le.2 (h c hc).1)) hnone
  rw [List.nil_append, List.append_nil] at hends
  rw [clean, hends, List.filter_eq_self]
  intro c hc
  have hlow : 0x21 ≤ c.toNat := (h c hc).1
  have hne (d : Char) (hd : d.toNat < 0x21) : c ≠ d := fun heq => by
    subst heq
    omega
  simp [hne '\t' (by decide), hne '\n' (by decide), hne '\x0D' (by decide)]

end DesignCompiler.Url
