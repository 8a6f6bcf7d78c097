import MediaFilter.Backend.Config
import MediaFilter.Proofs.Text.Trimming

/-!
The addresses that an accepted configuration makes of endpoints.  Each is the base address without
the slashes at its end, and then the endpoint.  It begins as the base address does if a host is
named there; a base address of a scheme and slashes only loses the slashes of the scheme as well.
-/

namespace MediaFilter.BackendConfig

theorem exists_bare_of_scheme {scheme : String} (listed : scheme ∈ schemes) :
    ∃ bare, scheme.toList = bare ++ ['/', '/'] ∧ bare.getLast? = some ':' := by
  simp only [schemes, List.mem_cons, List.not_mem_nil, or_false] at listed
  rcases listed with rfl | rfl
  · exact ⟨"http:".toList, by decide, by decide⟩
  · exact ⟨"https:".toList, by decide, by decide⟩

theorem scheme_unique {first second : String} {text : List Char} (isFirst : first ∈ schemes)
    (isSecond : second ∈ schemes) (begins : first.toList <+: text)
    (beginsToo : second.toList <+: text) : first = second := by
  have apart : ∀ first ∈ schemes, ∀ second ∈ schemes,
      first.toList <+: second.toList → first = second := by decide
  rcases List.prefix_or_prefix_of_prefix begins beginsToo with shorter | longer
  · exact apart first isFirst second isSecond shorter
  · exact (apart second isSecond first isFirst longer).symm

theorem not_prefix_nil {scheme : String} (listed : scheme ∈ schemes) : ¬scheme.toList <+: [] := by
  obtain ⟨bare, spelled, _⟩ := exists_bare_of_scheme listed
  simp [spelled]

theorem validate_eq_ok_iff {config : BackendConfig} :
    config.validate = .ok () ↔
      (∃ scheme ∈ schemes, scheme.toList <+: config.baseUrl.toList) ∧ config.timeout ≠ 0 := by
  have found : (schemes.any fun scheme => scheme.toList.isPrefixOf config.baseUrl.toList) = true ↔
      ∃ scheme ∈ schemes, scheme.toList <+: config.baseUrl.toList := by
    simp only [List.any_eq_true, List.isPrefixOf_iff_prefix]
  rw [← found]
  unfold validate
  split
  · rename_i empty
    have none : ¬∃ scheme ∈ schemes, scheme.toList <+: config.baseUrl.toList := by
      rintro ⟨scheme, listed, begins⟩
      rw [String.isEmpty_iff.1 empty] at begins
      exact not_prefix_nil listed begins
    simp [mt found.1 none]
  split
  · simp_all
  split <;> simp_all

theorem trimmedUrl_eq_iff {config : BackendConfig} {stem : List Char} :
    config.trimmedUrl.toList = stem ↔ ∃ slashes, config.baseUrl.toList = stem ++ slashes ∧
      (∀ c ∈ slashes, c = '/') ∧ stem.getLast? ≠ some '/' := by
  have trimmed : config.trimmedUrl.toList = config.baseUrl.toList.rdropWhile (· = '/') :=
    String.toList_ofList
  rw [trimmed, Text.rdropWhile_eq_iff]
  simp only [decide_eq_true_eq, decide_eq_false_iff_not]
  refine exists_congr fun slashes => and_congr_right fun _ => and_congr_right fun _ => ?_
  exact ⟨fun bare isLast => bare _ isLast rfl,
    fun bare c isLast isSlash => bare (isSlash ▸ isLast)⟩

theorem toList_url (config : BackendConfig) (endpoint : String) :
    (config.url endpoint).toList = config.trimmedUrl.toList ++ endpoint.toList :=
  String.toList_append

section

variable {config : BackendConfig} {scheme : String} {rest : List Char}
  (base : config.baseUrl.toList = scheme.toList ++ rest)

include base

theorem prefix_trimmedUrl_of_host (hosted : ∃ c ∈ rest, c ≠ '/') :
    scheme.toList <+: config.trimmedUrl.toList := by
  obtain ⟨slashes, whole, all, last⟩ :=
    Text.rdropWhile_eq_iff.1 (Eq.refl (rest.rdropWhile (· = '/')))
  have nonempty : rest.rdropWhile (· = '/') ≠ [] := by
    simpa [List.rdropWhile_eq_nil_iff] using hosted
  refine ⟨rest.rdropWhile (· = '/'), (trimmedUrl_eq_iff.2 ⟨slashes, ?_, ?_, ?_⟩).symm⟩
  · rw [base, List.append_assoc, ← whole]
  · simpa using all
  · rw [List.getLast?_append_of_ne_nil _ nonempty]
    intro isLast
    simpa using last '/' isLast

theorem trimmedUrl_of_bare {bare : List Char} (spelled : scheme.toList = bare ++ ['/', '/'])
    (colon : bare.getLast? = some ':') (unhosted : ∀ c ∈ rest, c = '/') :
    config.trimmedUrl.toList = bare := by
  refine trimmedUrl_eq_iff.2 ⟨'/' :: '/' :: rest, ?_, ?_, ?_⟩
  · rw [base, spelled, List.append_assoc]
    rfl
  · simpa using unhosted
  · rw [colon]
    decide

end

/-- An accepted configuration joins the stem of its base address, which does not end in a slash, to
the endpoint.  If the base address names a host the stem still begins with its scheme.  If it is a
scheme and slashes only, the stem is the scheme up to its colon, and the scheme is not found in
front unless the endpoint begins with the slashes that it lacks. -/
theorem url_keeps_scheme_iff {config : BackendConfig} (accepted : config.validate = .ok ())
    (endpoint : String) :
    ∃ scheme ∈ schemes, ∃ rest stem slashes,
      config.baseUrl.toList = scheme.toList ++ rest ∧
      (∀ other ∈ schemes, other.toList <+: config.baseUrl.toList → other = scheme) ∧
      (config.baseUrl.toList = stem ++ slashes ∧ (∀ c ∈ slashes, c = '/') ∧
        stem.getLast? ≠ some '/') ∧
      (config.url endpoint).toList = stem ++ endpoint.toList ∧
      ((∃ c ∈ rest, c ≠ '/') → scheme.toList <+: stem) ∧
      ((∀ c ∈ rest, c = '/') → scheme.toList = stem ++ ['/', '/']) ∧
      (scheme.toList <+: (config.url endpoint).toList ↔
        (∃ c ∈ rest, c ≠ '/') ∨ ['/', '/'] <+: endpoint.toList) := by
  obtain ⟨⟨scheme, listed, rest, base⟩, _⟩ := validate_eq_ok_iff.1 accepted
  obtain ⟨slashes, stripped⟩ := trimmedUrl_eq_iff.1 (Eq.refl config.trimmedUrl.toList)
  obtain ⟨bare, spelled, colon⟩ := exists_bare_of_scheme listed
  have hosts := prefix_trimmedUrl_of_host base.symm
  have unhosted := trimmedUrl_of_bare base.symm spelled colon
  refine ⟨scheme, listed, rest, config.trimmedUrl.toList, slashes, base.symm, ?_, stripped,
    toList_url config endpoint, hosts, ?_, ?_⟩
  · exact fun other isOther begins => scheme_unique isOther listed begins ⟨rest, base⟩
  · intro all
    rw [unhosted all, spelled]
  · rw [toList_url]
    by_cases hosted : ∃ c ∈ rest, c ≠ '/'
    · exact iff_of_true ((hosts hosted).trans (List.prefix_append _ _)) (.inl hosted)
    · have all : ∀ c ∈ rest, c = '/' := by simpa using hosted
      rw [unhosted all, spelled, List.prefix_append_right_inj, or_iff_right hosted]

def trailingSlashes : BackendConfig := ofUrl "https://api.example.org//"

theorem url_keeps_scheme_of_trailingSlashes :
    trailingSlashes.validate = .ok () ∧
      "https://".toList <+: (trailingSlashes.url "/filterValues").toList := by
  have accepted : trailingSlashes.validate = .ok () := by decide
  obtain ⟨scheme, _, rest, _, _, base, unique, _, _, _, _, keeps⟩ :=
    url_keeps_scheme_iff accepted "/filterValues"
  obtain rfl : "https://" = scheme := unique "https://" (by decide) (by decide)
  have named : "api.example.org//".toList = rest := by
    apply @List.append_cancel_left _ "https://".toList
    rw [← base]
    decide
  exact ⟨accepted, keeps.2 (.inl ⟨'a', by rw [← named]; decide, by decide⟩)⟩

/-- A base address without a host loses its scheme. -/
theorem scheme_lost_of_bare :
    (ofUrl "http://").validate = .ok () ∧ "/filterValues".toList.head? = some '/' ∧
      "http://".toList <+: (ofUrl "http://").baseUrl.toList ∧
      (ofUrl "http://").url "/filterValues" = "http:/filterValues" ∧
      ¬"http://".toList <+: ((ofUrl "http://").url "/filterValues").toList := by
  decide

end MediaFilter.BackendConfig
