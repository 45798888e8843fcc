import TextAnnotation.Attribute.Json
import TextAnnotation.Corpus
import TextAnnotation.Files.Tree
import TextAnnotation.Fixture
import TextAnnotation.Main
import TextAnnotation.Program
import TextAnnotation.Proofs.Annotator.Agreement
import TextAnnotation.Proofs.Cache.History
import TextAnnotation.Proofs.LanguageModel.Batching
import TextAnnotation.Proofs.Stream.Repeating
import TextAnnotation.Stub
import TextAnnotation.Proofs.Annotator.Editing
import TextAnnotation.Proofs.Annotator.Failing
import TextAnnotation.Proofs.Cache.Consistency
import TextAnnotation.Proofs.Options.Encoding
import TextAnnotation.Proofs.Annotator.Restoring
import TextAnnotation.Proofs.LanguageModel.WellFormed
import TextAnnotation.Proofs.Annotator.Asking
import TextAnnotation.Proofs.Annotator.Repeating
import TextAnnotation.Proofs.Program.Running
import TextAnnotation.Proofs.Settings.Rendering
import TextAnnotation.Proofs.LanguageModel.Erasing
import TextAnnotation.Proofs.Options.Overriding
import TextAnnotation.Proofs.Annotator.Preprocessing
import TextAnnotation.Proofs.Stub.Splitting
import TextAnnotation.Proofs.Fixture.Loading
import TextAnnotation.Proofs.Doc.Averaging
import TextAnnotation.Proofs.ModelDirectory.Resolving
