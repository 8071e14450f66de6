import SessionKeeper.Proofs.Tls.Selection

/-!
# What is loaded of files

The options name files of authorities, and two files that make the identity of the client. `Trusted`
says which certificates the files of authorities hold, and `Identifies` which identity the other two
make. `load_cases` says that a configuration is loaded exactly if all that the options name can be
used and something usable is selected, and what the configuration then has in it.
-/

namespace SessionKeeper

/-- Authorities are named, as a file or as a directory. -/
def TlsOptions.NamesAuthority (o : TlsOptions) : Prop :=
  o.ca ≠ "" ∨ o.caPath ≠ ""

namespace TlsConfig

variable {reader : TlsReader} {files : Files} {o : TlsOptions} {path : String} {certificate : Bytes}
  {certificates : List Bytes} {key : PrivateKey}

/-! ## Certificates and keys in files -/

/-- The file can be read, and the certificates are those in it. -/
def Lists (reader : TlsReader) (files : Files) (path : String) (certificates : List Bytes) : Prop :=
  ∃ bytes, files.read path = .ok bytes ∧ reader.certificates bytes = .ok certificates

/-- The file can be read, and the key is the first one in it. -/
def HoldsKey (reader : TlsReader) (files : Files) (path : String) (key : PrivateKey) : Prop :=
  ∃ bytes, files.read path = .ok bytes ∧ reader.privateKey bytes = .ok (some key)

/-- The file holds the certificate. -/
def Holds (reader : TlsReader) (files : Files) (path : String) (certificate : Bytes) : Prop :=
  ∃ certificates, Lists reader files path certificates ∧ certificate ∈ certificates

/-- The file can be read, and every certificate in it can be that of an authority. -/
structure WellFormed (reader : TlsReader) (files : Files) (path : String) : Prop where
  readable : ∃ certificates, Lists reader files path certificates
  valid : ∀ certificate, Holds reader files path certificate → reader.authority certificate = .ok ()

/-- A file is read if it can be opened and has bytes. -/
theorem read_eq_ok_iff {bytes : Bytes} :
    files.read path = .ok bytes ↔ files.openFile path = .ok (.regular bytes) := by
  unfold Files.read
  split
  · next h => simp [h]
  · next h => simp [h]
  · next h => simp [h]
  · next node hregular _ h =>
      rw [h]
      constructor
      · exact nofun
      · rintro ⟨⟩
        exact absurd rfl (hregular bytes)

theorem load_certificates_eq_ok_iff :
    loadCertificates reader files path = .ok certificates ↔
      Lists reader files path certificates := by
  unfold loadCertificates Lists
  simp only [read_eq_ok_iff]
  cases files.openFile path with
  | error e => simp
  | ok node => cases node <;> simp [contentOf, Except.mapError_eq_ok_iff]

theorem load_key_eq_ok_iff :
    loadKey reader files path = .ok key ↔ HoldsKey reader files path key := by
  unfold loadKey HoldsKey
  simp only [read_eq_ok_iff]
  cases files.openFile path with
  | error e => simp
  | ok node =>
      cases node with
      | regular bytes =>
          cases hread : reader.privateKey bytes with
          | error detail => simp [contentOf, hread]
          | ok found => cases found <;> simp [contentOf, hread]
      | _ => simp [contentOf]

theorem Lists.unique {others : List Bytes} (h : Lists reader files path certificates)
    (hothers : Lists reader files path others) : certificates = others := by
  rw [← load_certificates_eq_ok_iff] at h hothers
  exact Except.ok.inj (h.symm.trans hothers)

theorem holds_iff (h : Lists reader files path certificates) :
    Holds reader files path certificate ↔ certificate ∈ certificates := by
  constructor
  · rintro ⟨others, hothers, hmem⟩
    exact h.unique hothers ▸ hmem
  · exact fun hmem => ⟨certificates, h, hmem⟩

theorem well_formed_iff (h : Lists reader files path certificates) :
    WellFormed reader files path ↔
      ∀ certificate ∈ certificates, reader.authority certificate = .ok () := by
  constructor
  · exact fun hwell certificate hmem => hwell.valid certificate ((holds_iff h).mpr hmem)
  · exact fun hall => ⟨⟨_, h⟩, fun certificate hholds => hall certificate ((holds_iff h).mp hholds)⟩

theorem not_well_formed {fault : TlsFault} (h : loadCertificates reader files path = .error fault) :
    ¬ WellFormed reader files path := by
  rintro ⟨⟨certificates, hlists⟩, -⟩
  cases h.symm.trans (load_certificates_eq_ok_iff.mpr hlists)

/-- Every certificate passes, or one of them does not. -/
theorem check_authorities_cases (reader : TlsReader) (certificates : List Bytes) :
    (checkAuthorities reader certificates = .ok () ∧
        ∀ certificate ∈ certificates, reader.authority certificate = .ok ()) ∨
      ∃ fault, checkAuthorities reader certificates = .error fault ∧
        ¬ ∀ certificate ∈ certificates, reader.authority certificate = .ok () := by
  induction certificates with
  | nil => exact .inl ⟨rfl, by simp⟩
  | cons first certificates ih =>
      rw [List.forall_mem_cons]
      cases hfirst : reader.authority first with
      | error fault =>
          exact .inr ⟨.authority fault, by simp only [checkAuthorities, hfirst],
            fun h => nomatch h.1⟩
      | ok =>
          have hcheck : checkAuthorities reader (first :: certificates) =
              checkAuthorities reader certificates := by
            simp only [checkAuthorities, hfirst]
          rw [hcheck]
          obtain ⟨hok, hall⟩ | ⟨fault, hfault, hbad⟩ := ih
          · exact .inl ⟨hok, rfl, hall⟩
          · exact .inr ⟨fault, hfault, fun h => hbad h.2⟩

/-- The files are read together, unless one of them is not well formed. -/
theorem read_authorities_cases (reader : TlsReader) (files : Files) (paths : List String) :
    (∃ found, readAuthorities reader files paths = .ok found ∧
        (∀ path ∈ paths, WellFormed reader files path) ∧
        ∀ certificate, certificate ∈ found ↔ ∃ path ∈ paths, Holds reader files path certificate) ∨
      ∃ fault, readAuthorities reader files paths = .error fault ∧
        ∃ path ∈ paths, ¬ WellFormed reader files path := by
  induction paths with
  | nil => exact .inl ⟨[], rfl, by simp⟩
  | cons path paths ih =>
      cases hload : loadCertificates reader files path with
      | error fault =>
          exact .inr ⟨fault, by simp [readAuthorities, hload], path, List.mem_cons_self,
            not_well_formed hload⟩
      | ok first =>
          have hlists := load_certificates_eq_ok_iff.mp hload
          obtain ⟨hcheck, hvalid⟩ | ⟨fault, hcheck, hinvalid⟩ :=
            check_authorities_cases reader first
          · have hread : readAuthorities reader files (path :: paths) =
                (readAuthorities reader files paths).map (first ++ ·) := by
              simp only [readAuthorities, hload, hcheck]
            obtain ⟨found, hfound, hall, hmem⟩ | ⟨fault, hfault, other, hother, hbad⟩ := ih
            · refine .inl ⟨first ++ found, by rw [hread, hfound]; rfl,
                List.forall_mem_cons.mpr ⟨(well_formed_iff hlists).mpr hvalid, hall⟩,
                fun certificate => ?_⟩
              simp only [List.mem_append, List.exists_mem_cons_iff, holds_iff hlists, hmem]
            · exact .inr ⟨fault, by rw [hread, hfault]; rfl, other, List.mem_cons_of_mem _ hother,
                hbad⟩
          · exact .inr ⟨fault, by simp only [readAuthorities, hload, hcheck], path,
              List.mem_cons_self, mt (well_formed_iff hlists).mp hinvalid⟩

/-! ## Authorities -/

/-- The name ends in a dot and the extension, with something in front of the dot. -/
def HasExtension (name extension : String) : Prop :=
  ∃ stem, stem ≠ "" ∧ name = stem ++ "." ++ extension

/-- A list that goes on behind the characters in front of its first dot has that dot there. -/
theorem eq_append_dot_of_take_while (back : List Char)
    (h : (back.takeWhile (· != '.')).length < back.length) :
    ∃ rest, back = back.takeWhile (· != '.') ++ '.' :: rest := by
  have hparts : back.takeWhile (· != '.') ++ back.dropWhile (· != '.') = back :=
    List.takeWhile_append_dropWhile
  have hdot := List.head?_dropWhile_not (· != '.') back
  cases hrest : back.dropWhile (· != '.') with
  | nil =>
      rw [hrest, List.append_nil] at hparts
      rw [hparts] at h
      exact absurd h (Nat.lt_irrefl _)
  | cons c rest =>
      rw [hrest, List.head?_cons] at hdot
      obtain rfl : c = '.' := by simpa using hdot
      exact ⟨rest, by rw [← hrest, hparts]⟩

theorem extension_eq_some_iff {name extension : String} (hdot : ∀ c ∈ extension.toList, c ≠ '.') :
    Files.extension? name = some extension ↔ HasExtension name extension := by
  have hlength : name.toList.reverse.length = name.length := by
    rw [List.length_reverse, String.length_toList]
  constructor
  · intro h
    simp only [Files.extension?] at h
    split at h
    · next hshort =>
        obtain ⟨rest, hrest⟩ := eq_append_dot_of_take_while name.toList.reverse (by omega)
        have hne : rest ≠ [] := by
          rintro rfl
          have hall := congrArg List.length hrest
          simp only [List.length_append, List.length_singleton] at hall
          omega
        have hextension : extension.toList =
            (name.toList.reverse.takeWhile (· != '.')).reverse := by
          rw [← Option.some.inj h, String.toList_ofList]
        refine ⟨String.ofList rest.reverse, by simpa using hne, String.toList_inj.mp ?_⟩
        have hname := congrArg List.reverse hrest
        rw [List.reverse_reverse, List.reverse_append, ← hextension] at hname
        simpa using hname
    · cases h
  · rintro ⟨stem, hstem, rfl⟩
    have hback : (stem ++ "." ++ extension).toList.reverse =
        extension.toList.reverse ++ '.' :: stem.toList.reverse := by
      simp
    have hbehind : (stem ++ "." ++ extension).toList.reverse.takeWhile (· != '.') =
        extension.toList.reverse := by
      rw [hback, List.takeWhile_append_of_pos (by simpa using hdot)]
      simp
    have hstem : 0 < stem.toList.length := List.length_pos_iff.mpr (by simpa using hstem)
    have hshort : extension.toList.reverse.length + 1 < (stem ++ "." ++ extension).length := by
      have hall := congrArg List.length hback
      simp only [List.length_reverse, List.length_append, List.length_cons,
        String.length_toList] at hall hstem ⊢
      omega
    simp only [Files.extension?, hbehind, if_pos hshort, List.reverse_reverse, String.ofList_toList]

theorem is_authority_file_iff {name : String} :
    isAuthorityFile name = true ↔ HasExtension name "pem" ∨ HasExtension name "crt" := by
  rw [isAuthorityFile, Bool.or_eq_true, beq_iff_eq, beq_iff_eq,
    extension_eq_some_iff (by simp), extension_eq_some_iff (by simp)]

/-- The options name the file as one of authorities: by itself, or by a directory in which its name
has the extension of certificates. -/
inductive AuthorityFile (files : Files) (o : TlsOptions) : String → Prop where
  | single (h : o.ca ≠ "") : AuthorityFile files o o.ca
  | listed {names : List String} {name : String} (h : o.caPath ≠ "")
      (hlist : files.list o.caPath = .ok names) (hname : name ∈ names)
      (hextension : HasExtension name "pem" ∨ HasExtension name "crt") :
      AuthorityFile files o (Files.join o.caPath name)

/-- The certificate is in a file of authorities. -/
def Trusted (reader : TlsReader) (files : Files) (o : TlsOptions) (certificate : Bytes) : Prop :=
  ∃ path, AuthorityFile files o path ∧ Holds reader files path certificate

/-- The directory of authorities, if one is named, can be read. -/
def Listable (files : Files) (o : TlsOptions) : Prop :=
  o.caPath ≠ "" → ∃ names, files.list o.caPath = .ok names

/-- The authorities can be used: there is one, and nothing that the options name is amiss. -/
structure AuthoritiesUsable (reader : TlsReader) (files : Files) (o : TlsOptions) : Prop where
  directory : Listable files o
  wellFormed : ∀ path, AuthorityFile files o path → WellFormed reader files path
  trusted : ∃ certificate, Trusted reader files o certificate

theorem mem_single_iff :
    path ∈ (if o.ca.isEmpty then [] else [o.ca]) ↔ o.ca ≠ "" ∧ path = o.ca := by
  by_cases h : o.ca = "" <;> simp [h]

/-- The files of authorities are found, unless the directory cannot be read. -/
theorem authority_files_cases (files : Files) (o : TlsOptions) :
    (∃ paths, authorityFiles files o = .ok paths ∧ Listable files o ∧
        ∀ path, path ∈ paths ↔ AuthorityFile files o path) ∨
      ∃ fault, authorityFiles files o = .error fault ∧ ¬ Listable files o := by
  by_cases hpath : o.caPath = ""
  · refine .inl ⟨_, if_pos (String.isEmpty_iff.mpr hpath), absurd hpath, fun path => ?_⟩
    rw [mem_single_iff]
    constructor
    · rintro ⟨h, rfl⟩
      exact .single h
    · rintro (h | h)
      · exact ⟨h, rfl⟩
      · exact absurd hpath h
  · have hfiles : authorityFiles files o = _ := if_neg (mt String.isEmpty_iff.mp hpath)
    rw [hfiles]
    cases hlist : files.list o.caPath with
    | error e =>
        refine .inr ⟨_, by simp only [authorityFilesIn, hlist]; rfl, fun h => ?_⟩
        obtain ⟨names, hnames⟩ := h hpath
        cases hlist.symm.trans hnames
    | ok names =>
        refine .inl ⟨_, by simp only [authorityFilesIn, hlist]; rfl, fun _ => ⟨names, hlist⟩,
          fun path => ?_⟩
        rw [List.mem_append, mem_single_iff]
        simp only [List.mem_map, List.mem_filter, is_authority_file_iff]
        constructor
        · rintro (⟨h, rfl⟩ | ⟨name, ⟨hname, hextension⟩, rfl⟩)
          · exact .single h
          · exact .listed hpath hlist hname hextension
        · intro h
          cases h with
          | single h => exact .inl ⟨h, rfl⟩
          | listed _ hother hname hextension =>
              cases hlist.symm.trans hother
              exact .inr ⟨_, ⟨hname, hextension⟩, rfl⟩

/-- The authorities are just those that are trusted, unless they cannot be used. -/
theorem load_authorities_cases (reader : TlsReader) (files : Files) (o : TlsOptions) :
    (∃ found, loadAuthorities reader files o = .ok found ∧ AuthoritiesUsable reader files o ∧
        ∀ certificate, certificate ∈ found ↔ Trusted reader files o certificate) ∨
      ∃ fault, loadAuthorities reader files o = .error fault ∧
        ¬ AuthoritiesUsable reader files o := by
  obtain ⟨paths, hpaths, hlistable, hpath⟩ | ⟨fault, hfault, hunlistable⟩ :=
    authority_files_cases files o
  · obtain ⟨found, hfound, hall, hmem⟩ | ⟨fault, hfault, path, hbad, hmalformed⟩ :=
      read_authorities_cases reader files paths
    · simp only [hpath] at hall hmem
      cases found with
      | nil =>
          refine .inr ⟨.noAuthority, by simp only [loadAuthorities, hpaths, hfound], fun h => ?_⟩
          obtain ⟨certificate, htrusted⟩ := h.trusted
          cases (hmem certificate).mpr htrusted
      | cons first others =>
          exact .inl ⟨_, by simp only [loadAuthorities, hpaths, hfound],
            ⟨hlistable, hall, first, (hmem first).mp List.mem_cons_self⟩, hmem⟩
    · exact .inr ⟨fault, by simp only [loadAuthorities, hpaths, hfault],
        fun h => hmalformed (h.wellFormed path ((hpath path).mp hbad))⟩
  · exact .inr ⟨fault, by simp only [loadAuthorities, hfault], fun h => hunlistable h.directory⟩

/-- Without an option for authorities none is trusted. -/
theorem not_trusted (h : ¬ o.NamesAuthority) : ¬ Trusted reader files o certificate := by
  rintro ⟨path, hfile, -⟩
  cases hfile with
  | single hca => exact h (.inl hca)
  | listed hpath => exact h (.inr hpath)

/-! ## Identity -/

/-- The files of the certificate and of the key make the identity. -/
structure Identifies (reader : TlsReader) (files : Files) (o : TlsOptions)
    (identity : TlsIdentity) : Prop where
  certificates : Lists reader files o.cert identity.certificates
  key : HoldsKey reader files o.key identity.key
  fits : reader.identity identity.certificates identity.key = .ok ()

/-- What the options give as the identity of the client. -/
inductive Presented (reader : TlsReader) (files : Files) (o : TlsOptions) :
    Except TlsFault (Option TlsIdentity) → Prop where
  | nothing (h : o.cert = "") : Presented reader files o (.ok none)
  | identity (identity : TlsIdentity) (h : o.cert ≠ "")
      (hidentifies : Identifies reader files o identity) :
      Presented reader files o (.ok (some identity))
  | fault (fault : TlsFault) (h : o.cert ≠ "")
      (hnone : ¬ ∃ identity, Identifies reader files o identity) :
      Presented reader files o (.error fault)

theorem load_identity_cases (reader : TlsReader) (files : Files) (o : TlsOptions) :
    Presented reader files o (loadIdentity reader files o) := by
  by_cases hcert : o.cert = ""
  · rw [loadIdentity, if_pos (String.isEmpty_iff.mpr hcert)]
    exact .nothing hcert
  · rw [loadIdentity, if_neg (mt String.isEmpty_iff.mp hcert)]
    cases hcertificates : loadCertificates reader files o.cert with
    | error fault =>
        refine .fault _ hcert ?_
        rintro ⟨identity, h⟩
        cases hcertificates.symm.trans (load_certificates_eq_ok_iff.mpr h.certificates)
    | ok certificates =>
        cases hkey : loadKey reader files o.key with
        | error fault =>
            refine .fault _ hcert ?_
            rintro ⟨identity, h⟩
            cases hkey.symm.trans (load_key_eq_ok_iff.mpr h.key)
        | ok key =>
            cases hfits : reader.identity certificates key with
            | error fault =>
                simp only [hfits]
                refine .fault _ hcert ?_
                rintro ⟨⟨_, _⟩, h⟩
                cases hcertificates.symm.trans (load_certificates_eq_ok_iff.mpr h.certificates)
                cases hkey.symm.trans (load_key_eq_ok_iff.mpr h.key)
                cases hfits.symm.trans h.fits
            | ok =>
                simp only [hfits]
                exact .identity _ hcert ⟨load_certificates_eq_ok_iff.mp hcertificates,
                  load_key_eq_ok_iff.mp hkey, hfits⟩

/-! ## A whole configuration -/

/-- All that the options name can be used. -/
structure Loadable (reader : TlsReader) (files : Files) (o : TlsOptions) : Prop where
  authorities : o.NamesAuthority → AuthoritiesUsable reader files o
  identity : o.cert ≠ "" → ∃ identity, Identifies reader files o identity

/-- The configuration is the one of the options: it offers the suites and versions that they
select, verifies certificates as it was told to, trusts the authorities that they name, and presents
the identity that they give. -/
structure Loaded (reader : TlsReader) (files : Files) (o : TlsOptions) (verification : Verification)
    (config : TlsConfig) : Prop where
  suites : ∀ suite, suite ∈ config.suites ↔ suite.Kept o.ciphers
  versions : ∀ version, version ∈ config.versions ↔ TlsVersion.Allowed o.versions version
  verification : config.verification = verification
  authorities : ∀ certificate, certificate ∈ config.authorities ↔ Trusted reader files o certificate
  nonempty : o.NamesAuthority → config.authorities ≠ []
  presents : config.identity.isSome = true ↔ o.cert ≠ ""
  identity : ∀ identity, config.identity = some identity → Identifies reader files o identity

/-- The authorities are loaded if there are options for them, and they can be used. -/
theorem verified_authorities_cases (reader : TlsReader) (files : Files) (o : TlsOptions)
    {verification : Verification} (hskipped : verification = .skipped ↔ ¬ o.NamesAuthority) :
    let loaded := if verification = .skipped then .ok [] else loadAuthorities reader files o
    (∃ found, loaded = .ok found ∧ (o.NamesAuthority → AuthoritiesUsable reader files o) ∧
        ∀ certificate, certificate ∈ found ↔ Trusted reader files o certificate) ∨
      ∃ fault, loaded = .error fault ∧ o.NamesAuthority ∧ ¬ AuthoritiesUsable reader files o := by
  intro loaded
  by_cases h : o.NamesAuthority
  · have hloaded : loaded = loadAuthorities reader files o :=
      if_neg (mt hskipped.mp (not_not_intro h))
    rw [hloaded]
    obtain ⟨found, hfound, husable, hmem⟩ | ⟨fault, hfault, hunusable⟩ :=
      load_authorities_cases reader files o
    · exact .inl ⟨found, hfound, fun _ => husable, hmem⟩
    · exact .inr ⟨fault, hfault, h, hunusable⟩
  · exact .inl ⟨[], if_pos (hskipped.mpr h), (absurd · h),
      fun certificate => iff_of_false List.not_mem_nil (not_trusted h)⟩

/-- The configuration of the options is loaded, unless nothing usable is selected or something that
they name cannot be used. -/
theorem load_cases (reader : TlsReader) (files : Files) (o : TlsOptions)
    {verification : Verification} (hskipped : verification = .skipped ↔ ¬ o.NamesAuthority) :
    (∃ config, load reader files o verification = .ok config ∧
        (Selectable o ∧ Loadable reader files o) ∧ Loaded reader files o verification config) ∨
      ∃ fault, load reader files o verification = .error fault ∧
        ¬ (Selectable o ∧ Loadable reader files o) := by
  obtain ⟨suites, versions, hselection, hselectable, hsuites, hversions⟩ |
    ⟨fault, hselection, hunselectable⟩ := selected_or_fault o
  · obtain ⟨authorities, hauthorities, husable, hmem⟩ | ⟨fault, hauthorities, hnamed, hunusable⟩ :=
      verified_authorities_cases reader files o hskipped
    · have hidentity := load_identity_cases reader files o
      have hload : load reader files o verification =
          (loadIdentity reader files o).map fun identity =>
            ⟨suites, versions, verification, authorities, identity⟩ := by
        simp only [load, hselection, hauthorities]
      have hnonempty : o.NamesAuthority → authorities ≠ [] := by
        rintro hnamed rfl
        obtain ⟨certificate, htrusted⟩ := (husable hnamed).trusted
        cases (hmem certificate).mpr htrusted
      rw [hload]
      generalize loadIdentity reader files o = presented at hidentity
      cases hidentity with
      | nothing hcert =>
          refine .inl ⟨_, rfl, ⟨hselectable, husable, (absurd hcert ·)⟩, hsuites, hversions, rfl,
            hmem, hnonempty, iff_of_false Bool.false_ne_true (not_not_intro hcert), ?_⟩
          rintro _ ⟨⟩
      | identity identity hcert hidentifies =>
          refine .inl ⟨_, rfl, ⟨hselectable, husable, fun _ => ⟨identity, hidentifies⟩⟩, hsuites,
            hversions, rfl, hmem, hnonempty, iff_of_true rfl hcert, ?_⟩
          rintro _ ⟨⟩
          exact hidentifies
      | fault fault hcert hnone => exact .inr ⟨fault, rfl, fun h => hnone (h.2.identity hcert)⟩
    · exact .inr ⟨fault, by simp only [load, hselection, hauthorities],
        fun h => hunusable (h.2.authorities hnamed)⟩
  · exact .inr ⟨fault, by simp only [load, hselection], fun h => hunselectable h.1⟩

end TlsConfig

end SessionKeeper
