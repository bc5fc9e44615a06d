import LayeredConfig.Shape

/-
  The settings of the program: one declaration per setting, with the key it is written under,
  its type and its default. A settings value gives every setting a value of its type, so none
  is ever missing.
-/

namespace LayeredConfig

/-- The settings of archive verification. -/
structure VerificationSettings where
  verifyOnCreate : Bool
  checksumAlgorithm : String
  deriving Repr, DecidableEq

namespace VerificationSettings

/-- Archives are not verified on creation; checksums are SHA-256. -/
def default : VerificationSettings := ⟨false, "sha256"⟩

/-- The key of `verifyOnCreate`. -/
def verifyKey : String := "verify_on_create"

/-- The key of `checksumAlgorithm`. -/
def checksumKey : String := "checksum_algorithm"

/-- The declared shape of the record. -/
def shape : Shape :=
  .record "VerificationConfig"
    [⟨verifyKey, verifyKey, .flag⟩, ⟨checksumKey, checksumKey, .text⟩]

end VerificationSettings

/-- The type of a setting. -/
inductive SettingType where
  | text
  | flag
  | number
  | texts
  | note
  | verification
  deriving Repr, DecidableEq

namespace SettingType

/-- The values of a setting of this type. -/
@[reducible] def Carrier : SettingType → Type
  | .text => String
  | .flag => Bool
  | .number => Int64
  | .texts => List String
  | .note => Option String
  | .verification => Option VerificationSettings

/-- Values of a setting can be compared. -/
instance decEqCarrier : (t : SettingType) → DecidableEq t.Carrier
  | .text => inferInstanceAs (DecidableEq String)
  | .flag => inferInstanceAs (DecidableEq Bool)
  | .number => inferInstanceAs (DecidableEq Int64)
  | .texts => inferInstanceAs (DecidableEq (List String))
  | .note => inferInstanceAs (DecidableEq (Option String))
  | .verification => inferInstanceAs (DecidableEq (Option VerificationSettings))

/-- The declared shape of a setting of this type. -/
def shape : SettingType → Shape
  | .text => .text
  | .flag => .flag
  | .number => .number
  | .texts => .list .text
  | .note => .optional .text
  | .verification => .optional VerificationSettings.shape

end SettingType

/-- A setting, in the order of declaration. -/
inductive Setting where
  | archiveDirPath
  | useCurrentDirName
  | excludePatterns
  | includeGitInfo
  | defaultNote
  | maxArchives
  | inherit
  | backupDirPath
  | useCurrentDirNameForFiles
  | maxBackups
  | statusCreatedArchive
  | statusCreatedBackup
  | statusConfigError
  | statusDirectoryNotFound
  | statusFileNotFound
  | statusInvalidDirectoryType
  | statusPermissionDenied
  | statusDiskFull
  | statusFailedToCreateArchiveDirectory
  | formatCreatedArchive
  | formatIdenticalArchive
  | formatListArchive
  | formatCreatedBackup
  | formatConfigValue
  | formatError
  | templateCreatedArchive
  | templateListArchive
  | templateCreatedBackup
  | templateConfigValue
  | templateError
  | patternArchiveFilename
  | patternBackupFilename
  | patternConfigLine
  | verification
  deriving Repr, DecidableEq

/-- What is declared of a setting. -/
structure Setting.Declaration where
  key : String
  type : SettingType
  default : type.Carrier

namespace Setting

/-- All settings in the order of declaration. -/
def all : List Setting := [
  .archiveDirPath, .useCurrentDirName, .excludePatterns, .includeGitInfo, .defaultNote,
  .maxArchives, .inherit, .backupDirPath, .useCurrentDirNameForFiles, .maxBackups,
  .statusCreatedArchive, .statusCreatedBackup, .statusConfigError, .statusDirectoryNotFound,
  .statusFileNotFound, .statusInvalidDirectoryType, .statusPermissionDenied, .statusDiskFull,
  .statusFailedToCreateArchiveDirectory, .formatCreatedArchive, .formatIdenticalArchive,
  .formatListArchive, .formatCreatedBackup, .formatConfigValue, .formatError,
  .templateCreatedArchive, .templateListArchive, .templateCreatedBackup, .templateConfigValue,
  .templateError, .patternArchiveFilename, .patternBackupFilename, .patternConfigLine,
  .verification]

/-- The declaration of a setting. -/
def declaration : Setting → Declaration
  | .archiveDirPath => ⟨"archive_dir_path", .text, "../.bkpdir"⟩
  | .useCurrentDirName => ⟨"use_current_dir_name", .flag, true⟩
  | .excludePatterns => ⟨"exclude_patterns", .texts, [".git/", "vendor/"]⟩
  | .includeGitInfo => ⟨"include_git_info", .flag, false⟩
  | .defaultNote => ⟨"default_note", .note, none⟩
  | .maxArchives => ⟨"max_archives", .number, 0⟩
  | .inherit => ⟨"inherit", .texts, []⟩
  | .backupDirPath => ⟨"backup_dir_path", .text, "../.bkpdir"⟩
  | .useCurrentDirNameForFiles => ⟨"use_current_dir_name_for_files", .flag, true⟩
  | .maxBackups => ⟨"max_backups", .number, 0⟩
  | .statusCreatedArchive => ⟨"status_created_archive", .number, 0⟩
  | .statusCreatedBackup => ⟨"status_created_backup", .number, 0⟩
  | .statusConfigError => ⟨"status_config_error", .number, 10⟩
  | .statusDirectoryNotFound => ⟨"status_directory_not_found", .number, 20⟩
  | .statusFileNotFound => ⟨"status_file_not_found", .number, 20⟩
  | .statusInvalidDirectoryType => ⟨"status_invalid_directory_type", .number, 21⟩
  | .statusPermissionDenied => ⟨"status_permission_denied", .number, 22⟩
  | .statusDiskFull => ⟨"status_disk_full", .number, 30⟩
  | .statusFailedToCreateArchiveDirectory =>
    ⟨"status_failed_to_create_archive_directory", .number, 31⟩
  | .formatCreatedArchive => ⟨"format_created_archive", .text, "Created archive: %s\n"⟩
  | .formatIdenticalArchive =>
    ⟨"format_identical_archive", .text, "Directory is identical to existing archive: %s\n"⟩
  | .formatListArchive => ⟨"format_list_archive", .text, "%s (created: %s)\n"⟩
  | .formatCreatedBackup => ⟨"format_created_backup", .text, "Created backup: %s\n"⟩
  | .formatConfigValue => ⟨"format_config_value", .text, "%s: %s (source: %s)\n"⟩
  | .formatError => ⟨"format_error", .text, "Error: %s\n"⟩
  | .templateCreatedArchive =>
    ⟨"template_created_archive", .text, "Created archive: %\x7bpath\x7d\n"⟩
  | .templateListArchive =>
    ⟨"template_list_archive", .text, "%\x7bpath\x7d (created: %\x7bcreation_time\x7d)\n"⟩
  | .templateCreatedBackup => ⟨"template_created_backup", .text, "Created backup: %\x7bpath\x7d\n"⟩
  | .templateConfigValue =>
    ⟨"template_config_value", .text, "%\x7bname\x7d: %\x7bvalue\x7d (source: %\x7bsource\x7d)\n"⟩
  | .templateError => ⟨"template_error", .text, "Error: %\x7bmessage\x7d\n"⟩
  | .patternArchiveFilename =>
    ⟨"pattern_archive_filename", .text,
      "(?P<prefix>[^-]*)-(?P<year>\\d\x7b4\x7d)-(?P<month>\\d\x7b2\x7d)-(?P<day>\\d\x7b2\x7d)" ++
        "-(?P<hour>\\d\x7b2\x7d)-(?P<minute>\\d\x7b2\x7d)" ++
        "(?:=(?P<branch>[^=]+))?(?:=(?P<hash>[^=]+))?(?:=(?P<note>.+))?\\.zip"⟩
  | .patternBackupFilename =>
    ⟨"pattern_backup_filename", .text,
      "(?P<filename>[^/]+)-(?P<year>\\d\x7b4\x7d)-(?P<month>\\d\x7b2\x7d)-(?P<day>\\d\x7b2\x7d)" ++
        "-(?P<hour>\\d\x7b2\x7d)-(?P<minute>\\d\x7b2\x7d)(?:=(?P<note>.+))?"⟩
  | .patternConfigLine =>
    ⟨"pattern_config_line", .text,
      "(?P<name>[^:]+):\\s*(?P<value>[^(]+)\\s*\\(source:\\s*(?P<source>[^)]+)\\)"⟩
  | .verification => ⟨"verification", .verification, some VerificationSettings.default⟩

/-- The key of a setting in files and value trees. -/
def key (s : Setting) : String := s.declaration.key

/-- The type of a setting. -/
def type (s : Setting) : SettingType := s.declaration.type

/-- The default of a setting. -/
def default (s : Setting) : s.type.Carrier := s.declaration.default

/-- The setting with a key. -/
def ofKey? (key : String) : Option Setting := all.find? fun s => s.key == key

end Setting

/-- A value for every setting. -/
abbrev Settings := (s : Setting) → s.type.Carrier

namespace Settings

/-- Every setting at its default. -/
def default : Settings := Setting.default

/-- The settings with one of them changed. -/
def update (c : Settings) (s : Setting) (value : s.type.Carrier) : Settings :=
  fun t => if h : t = s then h ▸ value else c t

/-- The shape of the settings. -/
def shape : Shape :=
  .record "Config" (Setting.all.map fun s => ⟨s.key, s.key, s.type.shape⟩)

end Settings

end LayeredConfig
