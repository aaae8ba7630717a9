import ContentQuery.Language

/-!
# Configuration

What a compiler needs to know beside the question: the language of last resort, and whether
statements are to be logged.
-/

namespace ContentQuery

/-- The settings of a compiler. -/
structure Config where
  /-- The language of questions that leave it open to executors without a wish. -/
  defaultLanguage : Language
  /-- Whether compiled statements are logged. -/
  queryLogging : Bool
  deriving DecidableEq

namespace Config

/-- The settings without any choice made. -/
def standard : Config := ⟨.sql2, false⟩

/-- Chooses the language of last resort; left open, it is the one of select statements. -/
def withDefaultLanguage (config : Config) (language : Language) : Config :=
  { config with defaultLanguage := language.orElse .sql2 }

/-- Chooses whether statements are logged. -/
def withQueryLogging (config : Config) (enabled : Bool) : Config :=
  { config with queryLogging := enabled }

/-- The language of a statement: the one asked for, else the executor's, else the one of last
resort. -/
def resolve (config : Config) (requested : Language) (preferred : Option Language) : Language :=
  ((requested.orElse (preferred.getD .unspecified)).orElse config.defaultLanguage).orElse .sql2

end Config

end ContentQuery
