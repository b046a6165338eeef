import TagMarkup.Main
import TagMarkup.Markup.Inspect
import TagMarkup.Markup.Measures
import TagMarkup.Parsing.History
import TagMarkup.Proofs.Control
import TagMarkup.Proofs.LiveGrammar
import TagMarkup.Proofs.Lossless
import TagMarkup.Proofs.MaximalRuns
import TagMarkup.Proofs.RoundTrip
import TagMarkup.Proofs.TagFailures
import TagMarkup.Proofs.Translation
import TagMarkup.Proofs.Verdicts
import TagMarkup.Recipe.Recipe
import TagMarkup.Proofs.RepetitionsCompared
import TagMarkup.Proofs.Refactoring
import TagMarkup.Proofs.Outlines
import TagMarkup.Proofs.Reports
import TagMarkup.Proofs.Carets
import TagMarkup.Proofs.Colors
import TagMarkup.Proofs.ConsoleDocuments
import TagMarkup.Proofs.LinesAndColumns
import TagMarkup.Proofs.CountedReads
