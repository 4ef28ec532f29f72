import IssuePlanner.Path.Glob

/-! Files that are never shown to a model: binaries, media, generated files, caches, secrets and the
configuration of tools. -/

namespace IssuePlanner.Snapshot

def alwaysIgnoredPatterns : List String :=
  ["*.exe", "*.dll", "*.so", "*.dylib", "*.bin", "*.pyc", "*.pyo", "*.pyd", "*.class", "*.o", "*.a",
   "*.lib", "*.ko", "*.elf", "*.dSYM/", "*.wasm", "*.db", "*.sqlite", "*.sqlite3", "*.sqlite-journal",
   "*.sqlite-wal", "milvus.db", "milvus.db.lock", "*models_ckpt_cache*", "*/wandb/*", "wandb/",
   "mlruns/", "mlartifacts/", "*.ipynb_checkpoints", ".ipynb_checkpoints/", "*.ckpt", "*.h5", "*.hdf5",
   "*.pkl", "*.pickle", "*.joblib", "*.npy", "*.npz", "*.parquet", "*.feather", "*.arrow", "*.lock",
   "package-lock.json", "yarn.lock", "pnpm-lock.yaml", "poetry.lock", "Pipfile.lock", "composer.lock",
   "Gemfile.lock", "go.sum", "Cargo.lock", "pubspec.lock", "mix.lock", ".env", ".env.*", ".env.local",
   ".env.development", ".env.production", ".env.test", "*.local", "*local-only*", "*.log", "*.log.*",
   "logs/", "log/", "super-linter.log", "events.out.tfevents*", "*.tfevents", "go/logs.jsonl", "*.out",
   "*.err", "nohup.out", "*.pid", "*.test", ".test", "test_output/", "testoutput/", "test-results/",
   "*/__test__/", "*/__tests__/", "*.snap", "*.snapshot", "coverage/", "htmlcov/", ".coverage",
   "coverage.xml", "*.coverage", "*.cover", "*.gcov", "*.gcda", "*.gcno", "junit.xml",
   "test-report.xml", "__pycache__/", ".mypy_cache/", ".pytest_cache/", ".ruff_cache/", ".hypothesis/",
   ".tox/", ".nox/", ".pyre/", "go/tmp/", "go/temp/", "tmp/", "temp/", "cache/", ".cache/",
   ".sass-cache/", ".parcel-cache/", ".next/", ".nuxt/", ".vuepress/dist/", ".docusaurus/",
   ".serverless/", ".fusebox/", ".dynamodb/", ".yarn/cache/", ".yarn/install-state.gz", "env/",
   "venv/", "virtualenv/", ".venv/", "ENV/", "env.bak/", "venv.bak/", ".idea/", ".vscode/", "*.swp",
   "*.swo", "*.swn", "*.bak", "*~", ".project", ".classpath", ".settings/", "*.sublime-project",
   "*.sublime-workspace", ".kate-swp", ".ropeproject/", "build/", "dist/", "out/", "target/", "bin/",
   "obj/", "*.egg-info/", "*.egg", "develop-eggs/", "downloads/", "eggs/", ".eggs/", "lib/", "lib64/",
   "parts/", "sdist/", "var/", "wheels/", "*.whl", "share/python-wheels/", "MANIFEST", "node_modules/",
   "jspm_packages/", "bower_components/", ".npm/", "web_modules/", ".pnp.*", "**/Dockerfile*",
   "docker-compose*.yml", "docker-compose*.yaml", "*.override.*", "*/entrypoint.sh", ".dockerignore",
   "go/run", "go/runx.sh", ".terraform/", ".terraform.lock.hcl", "*.tfstate", "*.tfstate.*",
   "*.tfplan", "*.tfvars", "terraform.tfvars", "site/", "docs/_build/", "docs/.vuepress/dist/",
   "_site/", ".jekyll-cache/", ".jekyll-metadata", "public/", "*.pdf", "*.zip", "*.tar", "*.tar.gz",
   "*.tgz", "*.tar.bz2", "*.tbz2", "*.tar.xz", "*.txz", "*.rar", "*.7z", "*.gz", "*.bz2", "*.xz",
   "*.Z", "*.deb", "*.rpm", "*.dmg", "*.iso", "*.jar", "*.war", "*.ear", "*.png", "*.jpg", "*.jpeg",
   "*.gif", "*.bmp", "*.svg", "*.ico", "*.webp", "*.tiff", "*.tif", "*.psd", "*.ai", "*.eps", "*.raw",
   "*.mp4", "*.avi", "*.mov", "*.wmv", "*.flv", "*.webm", "*.mkv", "*.m4v", "*.mpg", "*.mpeg", "*.3gp",
   "*.mp3", "*.wav", "*.flac", "*.aac", "*.ogg", "*.wma", "*.m4a", "*.opus", "*.ape", "*.ttf", "*.otf",
   "*.woff", "*.woff2", "*.eot", ".DS_Store", "Thumbs.db", "desktop.ini", "*.lnk", "Icon\r",
   ".Spotlight-V100/", ".Trashes/", "ehthumbs.db", "ehthumbs_vista.db", "*.stackdump",
   "[Dd]esktop.ini", "$RECYCLE.BIN/", "*.tmp", "*.temp", "*.backup", "*.old", "*.orig", "*.rej",
   "*.BACKUP.*", "*.BASE.*", "*.LOCAL.*", "*.REMOTE.*", "*.key", "*.pem", "*.p12", "*.pfx", "*.cert",
   "*.crt", "*.csr", "*.jks", "*.keystore", "id_rsa", "id_rsa.pub", "id_dsa", "id_dsa.pub", "*.gpg",
   ".git/", ".gitignore", ".gitattributes", ".gitmodules", ".hg/", ".hgignore", ".svn/", ".bzr/",
   ".yellhornignore", ".yellhorncontext", ".continueignore", ".cursorignore", ".sourcery.yaml",
   ".pre-commit-config.yaml", ".editorconfig", ".prettierrc*", ".eslintrc*", ".stylelintrc*",
   ".markdownlint*", "example-*.yml", "example-*.yaml", "example-*.json", "fixture-*", "fixtures/",
   "examples/", "samples/", "*.min.js", "*.min.css", "*.min.map", "*.map", "*.js.map", "*.css.map"]

def isAlwaysIgnored (path : String) : Bool := alwaysIgnoredPatterns.any (Path.fits path)

end IssuePlanner.Snapshot
