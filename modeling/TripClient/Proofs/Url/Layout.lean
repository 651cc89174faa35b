import TripClient.Proofs.Url.OfWeb

/-!
# Where a path stands in a URL

Neither the host of a URL of the web nor its port holds a slash (`Authority.not_mem`), and its path holds
no mark that ends one (`Path.not_mark_of_mem`). So what stands in the text of such a URL between the first
slash behind the host and the query is its path (`Http.Address.path_of_ofUrl`).
-/

namespace TripClient

namespace Url

/-! ## Authorities -/

/-- The text of an authority without credentials. -/
theorem Authority.toChars_eq {authority : Authority} (hnone : authority.hasCredentials = false) :
    authority.toChars = authority.host.toChars ++
      match authority.port with
      | some n => ':' :: Nat.toDigits 10 n
      | none => [] := by
  rw [toChars, credentialsText, hnone, if_neg Bool.false_ne_true, List.nil_append]
  cases authority.port with
  | none => rfl
  | some n => exact congrArg (fun cs => authority.host.toChars ++ ':' :: cs) String.toList_ofList

/-- An authority of the web without credentials is written with plain characters, colons and brackets. -/
theorem Authority.mem_toChars {authority : Authority} (hnone : authority.hasCredentials = false)
    (hhost : authority.host.OfWeb) {c : Char} (hc : c ∈ authority.toChars) :
    Domain.IsPlain c ∨ c = ':' ∨ c = '[' ∨ c = ']' := by
  rw [toChars_eq hnone] at hc
  rcases List.mem_append.1 hc with hc | hc
  · exact hhost.written.mem hc
  · split at hc
    · rcases List.mem_cons.1 hc with heq | hc
      · exact .inr (.inl heq)
      · exact .inl (isPlain_of_mem_toDigits (by decide) hc).1
    · cases hc

/-- A forbidden character stands in the text of an authority only if it is a colon or a bracket. -/
theorem Authority.not_mem {authority : Authority} (hnone : authority.hasCredentials = false)
    (hhost : authority.host.OfWeb) {c : Char} (hc : Domain.isForbidden c)
    (hne : c ≠ ':' ∧ c ≠ '[' ∧ c ≠ ']') : c ∉ authority.toChars := by
  intro hmem
  rcases mem_toChars hnone hhost hmem with hplain | heq | heq | heq
  · exact hplain.2 hc
  · exact hne.1 heq
  · exact hne.2.1 heq
  · exact hne.2.2 heq

/-- An authority of the web has a text. -/
theorem Authority.toChars_ne_nil {authority : Authority} (hhost : authority.host.OfWeb) :
    authority.toChars ≠ [] := by
  rw [toChars, List.append_assoc]
  exact List.append_ne_nil_of_right_ne_nil _ (List.append_ne_nil_of_left_ne_nil hhost.written.ne_nil _)

/-- An authority without its user name and its password. -/
def Authority.bare (authority : Authority) : Authority := { authority with username := [], password := none }

theorem Authority.hasCredentials_bare (authority : Authority) : authority.bare.hasCredentials = false := rfl

theorem Authority.bare_eq_self {authority : Authority} (hnone : authority.hasCredentials = false) :
    authority.bare = authority := by
  obtain ⟨username, password, host, port⟩ := authority
  simp only [hasCredentials, Bool.or_eq_false_iff, Bool.not_eq_false', List.isEmpty_iff,
    Option.isSome_eq_false_iff, Option.isNone_iff_eq_none] at hnone
  obtain ⟨rfl, rfl⟩ := hnone
  rfl

/-- Credentials stand before what else there is of an authority. -/
theorem Authority.toChars_eq_bare (authority : Authority) :
    authority.toChars = authority.credentialsText ++ authority.bare.toChars := by
  rw [toChars, List.append_assoc]
  rfl

/-- Credentials are a user name and perhaps a password, which ends at an at sign. -/
theorem Authority.credentialsText_eq {authority : Authority} (hsome : authority.hasCredentials) :
    authority.credentialsText = authority.username ++ Text.behind ':' authority.password ++ ['@'] := by
  rw [credentialsText, if_pos hsome]
  cases authority.password <;> rfl

/-- There is no credential of which nothing is written. -/
theorem Authority.credentials_ne_nil {authority : Authority} (hsome : authority.hasCredentials) :
    authority.username ++ Text.behind ':' authority.password ≠ [] := by
  intro hnil
  obtain ⟨husername, hpassword⟩ := List.append_eq_nil_iff.1 hnil
  rw [hasCredentials, husername] at hsome
  cases hpart : authority.password with
  | none =>
    rw [hpart] at hsome
    cases hsome
  | some p =>
    rw [hpart] at hpassword
    cases hpassword

/-- Credentials that are kept hold no mark but the colon between them. -/
theorem Authority.Kept.mem {authority : Authority} (hkept : authority.Kept) {c : Char}
    (hc : c ∈ authority.username ++ Text.behind ':' authority.password) :
    c = ':' ∨ ¬ Percent.inUserinfo c := by
  rcases List.mem_append.1 hc with hc | hc
  · exact .inr (hkept.username c hc)
  · cases hpart : authority.password with
    | none =>
      rw [hpart] at hc
      cases hc
    | some p =>
      rw [hpart] at hc
      exact (List.mem_cons.1 hc).imp_right ((hkept.password p hpart).2 c)

/-! ## Texts -/

/-- In the text of a URL its path follows its authority, and then nothing does but a query or a
fragment. -/
theorem exists_tail {u : Url} {authority : Authority} (h : u.authority = some authority) :
    ∃ tail, (∀ c ∈ tail.head?, c = '?' ∨ c = '#') ∧
      u.toChars = u.scheme ++ ':' :: '/' :: '/' :: (authority.toChars ++ (u.path.toChars ++ tail)) := by
  cases hquery : u.query with
  | none =>
    cases hfragment : u.fragment with
    | none => exact ⟨[], by simp, by simp [toChars, h, hquery, hfragment]⟩
    | some f => exact ⟨'#' :: f, by simp, by simp [toChars, h, hquery, hfragment]⟩
  | some q =>
    cases hfragment : u.fragment with
    | none => exact ⟨'?' :: q, by simp, by simp [toChars, h, hquery, hfragment]⟩
    | some f => exact ⟨'?' :: q ++ '#' :: f, by simp, by simp [toChars, h, hquery, hfragment]⟩

/-- The path of a URL of the web holds none of the marks that end a path. -/
theorem Path.not_mark_of_mem {ss : List (List Char)} (hss : ∀ s ∈ ss, Kept s) {c : Char}
    (hc : c ∈ (Path.segments ss).toChars) : c ≠ '?' ∧ c ≠ '#' := by
  obtain ⟨s, hs, hmem⟩ := List.mem_flatMap.1 hc
  rcases List.mem_cons.1 hmem with rfl | hmem
  · decide
  · have hinPath := ((hss s hs).chars c hmem).1
    constructor <;> rintro rfl <;> exact hinPath (by decide)

end Url

namespace Http.Address

open Url (Path)

/-- The authority stands behind the scheme. -/
theorem behindScheme_append {scheme : List Char} (h : schemes.contains (String.ofList scheme))
    (rest : List Char) : behindScheme (scheme ++ ':' :: '/' :: '/' :: rest) = rest := by
  rcases Url.scheme_of_schemes h with rfl | rfl <;> rfl

/-- The path of an address is that of the URL from which it was taken. -/
theorem path_of_ofUrl {u : Url} {a : Address} (h : ofUrl u = .ok a) (hweb : u.OfWeb) :
    a.path.toList = u.path.toChars := by
  obtain ⟨-, hscheme, authority, hauthority, hnone, rfl⟩ := ofUrl_eq_ok h
  obtain ⟨-, ⟨authority', hauthority', hhost, -⟩, ⟨ss, hpath, hne, hss⟩, -, -⟩ := hweb
  obtain rfl := Option.some_inj.1 (hauthority.symm.trans hauthority')
  have hslash := Url.Authority.not_mem hnone hhost (c := '/') (by decide) (by decide)
  obtain ⟨first, rest, rfl⟩ := List.exists_cons_of_ne_nil hne
  obtain ⟨tail, htail, hchars⟩ := Url.exists_tail hauthority
  have hstop : tail.takeWhile (fun c => c != '?' && c != '#') = [] := by
    cases tail with
    | nil => rfl
    | cons c cs =>
      rcases htail c rfl with rfl | rfl <;> rfl
  have hdrop : (authority.toChars ++ ((Path.segments (first :: rest)).toChars ++ tail)).dropWhile
      (· != '/') = (Path.segments (first :: rest)).toChars ++ tail := by
    rw [List.dropWhile_append_of_pos fun c hc => ?_]
    · rfl
    · rw [bne_iff_ne]
      rintro rfl
      exact hslash hc
  have hmarks : ∀ c ∈ (Path.segments (first :: rest)).toChars, (c != '?' && c != '#') = true := by
    intro c hc
    have ⟨hquestion, hhash⟩ := Path.not_mark_of_mem hss hc
    rw [bne_iff_ne.2 hquestion, bne_iff_ne.2 hhash]
    rfl
  rw [path, String.toList_ofList, Url.render, String.toList_ofList, hchars,
    behindScheme_append hscheme, hpath, hdrop, List.takeWhile_append_of_pos hmarks, hstop,
    List.append_nil]

end Http.Address

end TripClient
